/-
This file is about the whole life of an `EmpiricalData` object, from its
constructor to its destructor. The object keeps two promises to whoever gave it
`alloc_` and `dealloc_`: as long as the pointers it got were fresh, it frees
only what it holds, with the size it asked for; and the destructor frees all of
it.

The freshness that the promises rest on is that of the pointers the object
really got, not that of the allocator in every history. So they can be put
together with the promises of the other objects that share the heap.
-/

import Fleetbench.Library.Ledger
import Fleetbench.Tcmalloc.Accounting

namespace Fleetbench.Tcmalloc

open Library Library.Tenure

variable {Weight : Type}

/-! ### Calls as the holding of pointers -/

def Call.tenure : Call → Tenure Ptr Nat
  | .alloc size p => .acquire p size
  | .dealloc p size => .release p size

def tenures (calls : List Call) : List (Tenure Ptr Nat) := calls.map Call.tenure

theorem tenures_append (first second : List Call) :
    tenures (first ++ second) = tenures first ++ tenures second := List.map_append

theorem heapStep_tenure (heap : Ptr → Option Nat) (call : Call) :
    heapStep heap call = call.tenure.step heap := by
  cases call <;> rfl

theorem heldAfter_tenures (calls : List Call) : heldAfter (tenures calls) = heapAfter calls := by
  rw [heldAfter, tenures, List.foldl_map, heapAfter]
  congr 1
  funext heap call
  exact (heapStep_tenure heap call).symm

/-! ### The eager simulation, with the pointers it got -/

/-- Every live pointer stands in a live vector. -/
def Complete (eager : Eager) : Prop :=
  ∀ p size, heapAfter eager.calls p = some size →
    ∃ (i : Nat) (objs : List Ptr), eager.live[i]? = some objs ∧ p ∈ objs

/-- The frees are sound as long as the pointers were fresh, and then the live vectors are the
heap. -/
structure EagerGuarded (sizes : List Nat) (eager : Eager) : Prop where
  guarded : Guarded (tenures eager.calls)
  sound : Fresh (tenures eager.calls) → EagerSound sizes eager
  complete : Fresh (tenures eager.calls) → Complete eager

section Eager

variable {sizes : List Nat} {eager next : Eager}

theorem complete_birth (complete : Complete eager) {i size : Nat} {objs : List Ptr} (p : Ptr)
    (found : eager.live[i]? = some objs) :
    Complete ⟨eager.live.set i (objs ++ [p]), eager.calls ++ [.alloc size p]⟩ := by
  intro q other alive
  have inside := (List.getElem?_eq_some_iff.mp found).1
  by_cases same : q = p
  · exact ⟨i, objs ++ [p], List.getElem?_set_self inside, by simp [same]⟩
  · rw [heapAfter_concat, heapStep, Function.update_of_ne same] at alive
    obtain ⟨j, others, foundOthers, member⟩ := complete q other alive
    by_cases here : j = i
    · subst here
      cases found.symm.trans foundOthers
      exact ⟨j, objs ++ [p], List.getElem?_set_self inside, List.mem_append_left _ member⟩
    · exact ⟨j, others, (List.getElem?_set_ne (Ne.symm here)).trans foundOthers, member⟩

theorem complete_death (complete : Complete eager) {i toFree size : Nat} {objs : List Ptr} {p : Ptr}
    (found : eager.live[i]? = some objs) (picked : objs[toFree]? = some p) :
    Complete ⟨eager.live.set i (swapRemove objs toFree), eager.calls ++ [.dealloc p size]⟩ := by
  intro q other alive
  have inside := (List.getElem?_eq_some_iff.mp found).1
  rw [heapAfter_concat] at alive
  have different : q ≠ p := by
    rintro rfl
    rw [heapStep, Function.update_self] at alive
    cases alive
  rw [heapStep, Function.update_of_ne different] at alive
  obtain ⟨j, others, foundOthers, member⟩ := complete q other alive
  by_cases here : j = i
  · subst here
    cases found.symm.trans foundOthers
    refine ⟨j, _, List.getElem?_set_self inside, ?_⟩
    have either := (perm_swapRemove picked).mem_iff.mp member
    exact (List.mem_cons.mp either).resolve_left different
  · exact ⟨j, others, (List.getElem?_set_ne (Ne.symm here)).trans foundOthers, member⟩

theorem EagerGuarded.step (holds : EagerGuarded sizes eager) {alloc : Allocator}
    {event : RecordEvent} (run : eagerStep alloc sizes eager event = some next) :
    EagerGuarded sizes next := by
  obtain ⟨i, size, objs, _, sizeEq, found, rfl⟩ |
    ⟨i, toFree, size, objs, p, _, sizeEq, found, picked, rfl⟩ := eagerStep_cases run
  · have split : tenures (eager.calls ++ [.alloc size (alloc eager.calls size)]) =
        tenures eager.calls ++ [.acquire (alloc eager.calls size) size] := tenures_append _ _
    refine ⟨?_, fun fresh => ?_, fun fresh => ?_⟩ <;> simp only [split] at *
    · exact everywhere_concat.mpr ⟨holds.guarded, fun _ => trivial⟩
    · obtain ⟨before, isFresh⟩ := everywhere_concat.mp fresh
      refine eagerSound_birth (holds.sound before) sizeEq found ?_
      rw [← heldAfter_tenures]
      exact isFresh
    · exact complete_birth (holds.complete (everywhere_concat.mp fresh).1) _ found
  · have split : tenures (eager.calls ++ [.dealloc p size]) =
        tenures eager.calls ++ [.release p size] := tenures_append _ _
    refine ⟨?_, fun fresh => ?_, fun fresh => ?_⟩ <;> simp only [split] at *
    · refine everywhere_concat.mpr ⟨holds.guarded, fun fresh => ?_⟩
      rw [heldAfter_tenures]
      exact (holds.sound fresh).tracked i size objs sizeEq found p (List.mem_of_getElem? picked)
    · exact eagerSound_death (holds.sound (everywhere_concat.mp fresh).1) sizeEq found picked
    · exact complete_death (holds.complete (everywhere_concat.mp fresh).1) found picked

theorem EagerGuarded.run (holds : EagerGuarded sizes eager) {alloc : Allocator}
    {trace : List RecordEvent} (run : eagerRun alloc sizes trace eager = some next) :
    EagerGuarded sizes next := by
  induction trace generalizing eager with
  | nil =>
    cases run
    exact holds
  | cons event rest inductionHypothesis =>
    obtain ⟨middle, first, later⟩ := Option.bind_eq_some_iff.mp run
    exact inductionHypothesis (holds.step first) later

theorem EagerGuarded.rounds (holds : EagerGuarded sizes eager) {alloc : Allocator}
    {trace : List RecordEvent} {rounds : Nat}
    (run : eagerRounds alloc sizes trace rounds eager = some next) : EagerGuarded sizes next := by
  induction rounds generalizing next with
  | zero =>
    cases run
    exact holds
  | succ rounds inductionHypothesis =>
    obtain ⟨middle, earlier, later⟩ := Option.bind_eq_some_iff.mp run
    exact (inductionHypothesis earlier).run later

theorem eagerGuarded_empty (sizes : List Nat) :
    EagerGuarded sizes ⟨sizes.map fun _ => [], []⟩ :=
  ⟨everywhere_nil, fun _ => eagerSound_empty sizes, fun _ _ _ alive => by cases alive⟩

end Eager

/-! ### Functions that leave the sizes of the classes alone -/

namespace EmpiricalData

def sizes (data : EmpiricalData Weight) : List Nat := data.state.map (·.size)

theorem sizes_set {data : EmpiricalData Weight} {i : Nat} {old new : SizeState Weight}
    (found : data.state[i]? = some old) (same : new.size = old.size) :
    (data.state.set i new).map (·.size) = data.sizes := by
  rw [List.map_set, same]
  exact set_of_getElem? (by rw [List.getElem?_map, found]; rfl)

end EmpiricalData

section Frames

variable {data after : EmpiricalData Weight}

theorem restoreObjs_sizes {snapshots state restored : List (SizeState Weight)}
    (run : restoreObjs snapshots state = some restored) :
    restored.map (·.size) = state.map (·.size) := by
  induction snapshots generalizing state restored with
  | nil =>
    cases run
    rfl
  | cons snapshot snapshots inductionHypothesis =>
    cases state with
    | nil => cases run
    | cons s state =>
      obtain ⟨rest, others, run⟩ := Option.bind_eq_some_iff.mp run
      cases run
      rw [List.map_cons, List.map_cons, inductionHypothesis others]

theorem restoreSnapshot_sizes (run : restoreSnapshot data = some after) :
    after.sizes = data.sizes := by
  obtain ⟨state, restore, run⟩ := Option.bind_eq_some_iff.mp run
  cases run
  exact restoreObjs_sizes restore

theorem buildDeathUpdates_sizes {entries : List (Bool × Nat)} {deathIndex : Nat}
    (run : buildDeathUpdates entries deathIndex data = some after) : after.sizes = data.sizes := by
  induction entries generalizing deathIndex data with
  | nil =>
    cases run
    rfl
  | cons entry rest inductionHypothesis =>
    obtain ⟨isBirth, i⟩ := entry
    cases isBirth with
    | true => exact inductionHypothesis run
    | false =>
      obtain ⟨index, _, run⟩ := Option.bind_eq_some_iff.mp run
      split at run
      · obtain ⟨s, found, run⟩ := Option.bind_eq_some_iff.mp run
        obtain ⟨p, _, run⟩ := Option.bind_eq_some_iff.mp run
        obtain ⟨deathObjects, _, run⟩ := Option.bind_eq_some_iff.mp run
        exact (inductionHypothesis run).trans (EmpiricalData.sizes_set found rfl)
      · obtain ⟨birthPointers, _, run⟩ := Option.bind_eq_some_iff.mp run
        exact (inductionHypothesis run).trans rfl

theorem buildClassUpdates_size {indices : List ObjectIndex} {i : Nat} {s built : SizeState Weight}
    {pointers after : List Slot}
    (run : buildClassUpdates indices i s pointers = some (built, after)) : built.size = s.size := by
  induction indices generalizing i s pointers with
  | nil =>
    cases run
    rfl
  | cons index rest inductionHypothesis =>
    rw [buildClassUpdates] at run
    split at run
    · split at run
      · exact (inductionHypothesis run).trans rfl
      · exact inductionHypothesis run
    · obtain ⟨middle, _, run⟩ := Option.bind_eq_some_iff.mp run
      exact (inductionHypothesis run).trans rfl

theorem buildObjectUpdates_sizes {state built : List (SizeState Weight)}
    {pointers after : List Slot}
    (run : buildObjectUpdates state pointers = some (built, after)) :
    built.map (·.size) = state.map (·.size) := by
  induction state generalizing built pointers after with
  | nil =>
    cases run
    rfl
  | cons s state inductionHypothesis =>
    obtain ⟨⟨first, middle⟩, here, run⟩ := Option.bind_eq_some_iff.mp run
    obtain ⟨⟨others, final⟩, later, run⟩ := Option.bind_eq_some_iff.mp run
    cases run
    rw [List.map_cons, List.map_cons, inductionHypothesis later, buildClassUpdates_size here]

theorem buildUpdateVectors_sizes (run : buildUpdateVectors data = some after) :
    after.sizes = data.sizes := by
  obtain ⟨middle, deaths, run⟩ := Option.bind_eq_some_iff.mp run
  obtain ⟨⟨state, pointers⟩, objects, run⟩ := Option.bind_eq_some_iff.mp run
  cases run
  exact (buildObjectUpdates_sizes objects).trans ((buildDeathUpdates_sizes deaths).trans rfl)

theorem storeAt_state {slot : Slot} {p : Ptr} (run : storeAt slot p data = some after) :
    after.state = data.state := by
  cases slot with
  | null => cases run
  | deathObject index =>
    obtain ⟨_, _, stored⟩ := Option.bind_eq_some_iff.mp run
    cases stored
    rfl
  | birthObject index =>
    obtain ⟨_, _, stored⟩ := Option.bind_eq_some_iff.mp run
    cases stored
    rfl

theorem replayLoop_state {alloc : Allocator} {fuel : Nat} {calls afterCalls : List Call}
    (run : replayLoop alloc fuel data calls = some (after, afterCalls)) :
    after.state = data.state := by
  induction fuel generalizing data calls with
  | zero =>
    rw [replayLoop] at run
    split at run
    · cases run
    · cases run
      rfl
  | succ fuel inductionHypothesis =>
    rw [replayLoop] at run
    split at run
    · obtain ⟨birth, _, run⟩ := Option.bind_eq_some_iff.mp run
      obtain ⟨size, _, run⟩ := Option.bind_eq_some_iff.mp run
      split at run
      · obtain ⟨⟨stored, calls'⟩, replayed, run⟩ := Option.bind_eq_some_iff.mp run
        obtain ⟨_, _, replayed⟩ := Option.bind_eq_some_iff.mp replayed
        obtain ⟨_, store, replayed⟩ := Option.bind_eq_some_iff.mp replayed
        cases replayed
        have same := inductionHypothesis run
        have before := storeAt_state store
        exact same.trans before
      · obtain ⟨calls', _, run⟩ := Option.bind_eq_some_iff.mp run
        have same := inductionHypothesis run
        exact same
    · cases run
      rfl

theorem replayTrace_sizes {alloc : Allocator} {calls afterCalls : List Call}
    (run : replayTrace alloc data calls = some (after, afterCalls)) : after.sizes = data.sizes := by
  obtain ⟨⟨looped, calls'⟩, loop, run⟩ := Option.bind_eq_some_iff.mp run
  cases run
  exact congrArg (List.map (·.size)) (replayLoop_state loop)

theorem prepareStates_sizes {birthObjects deathObjects final : List Ptr}
    {state prepared : List (SizeState Weight)}
    (run : prepareStates birthObjects state deathObjects = some (prepared, final)) :
    prepared.map (·.size) = state.map (·.size) := by
  induction state generalizing prepared deathObjects final with
  | nil =>
    cases run
    rfl
  | cons s state inductionHypothesis =>
    obtain ⟨⟨first, middle⟩, here, run⟩ := Option.bind_eq_some_iff.mp run
    obtain ⟨⟨others, last⟩, later, run⟩ := Option.bind_eq_some_iff.mp run
    cases run
    obtain ⟨_, _, here⟩ := Option.bind_eq_some_iff.mp here
    obtain ⟨_, _, here⟩ := Option.bind_eq_some_iff.mp here
    obtain ⟨_, _, here⟩ := Option.bind_eq_some_iff.mp here
    cases here
    rw [List.map_cons, List.map_cons, inductionHypothesis later]

theorem prepareNextReplay_sizes (run : prepareNextReplay data = some after) :
    after.sizes = data.sizes := by
  obtain ⟨⟨state, deathObjects⟩, prepared, run⟩ := Option.bind_eq_some_iff.mp run
  cases run
  exact prepareStates_sizes prepared

end Frames

/-! ### The destructor -/

/-- What the vectors hold, with the sizes it goes back with. -/
def EmpiricalData.owed (data : EmpiricalData Weight) : List (Ptr × Nat) :=
  data.state.flatMap fun s => s.objs.map fun p => (p, s.size)

/-- `~EmpiricalData`. -/
def destroy (data : EmpiricalData Weight) (calls : List Call) : List Call :=
  calls ++ data.state.flatMap fun s => s.objs.map fun p => .dealloc p s.size

theorem tenures_destroy (data : EmpiricalData Weight) (calls : List Call) :
    tenures (destroy data calls) = tenures calls ++ releases data.owed := by
  rw [destroy, tenures_append, releases, EmpiricalData.owed, List.map_flatMap]
  congr 1
  rw [tenures, List.map_flatMap]
  simp only [List.map_map]
  rfl

/-- The object between two of its public functions, while it is not being recorded. -/
structure Lived (data : EmpiricalData Weight) (calls : List Call) : Prop where
  guarded : EagerGuarded data.sizes ⟨data.state.map (·.objs), calls⟩

section Destroy

variable {data : EmpiricalData Weight} {calls : List Call}

theorem mem_owed_iff {p : Ptr} {size : Nat} :
    (p, size) ∈ data.owed ↔ ∃ (i : Nat) (objs : List Ptr), data.sizes[i]? = some size ∧
      (data.state.map (·.objs))[i]? = some objs ∧ p ∈ objs := by
  simp only [EmpiricalData.owed, EmpiricalData.sizes, List.mem_flatMap, List.mem_map,
    Prod.mk.injEq, List.getElem?_map, Option.map_eq_some_iff]
  constructor
  · rintro ⟨s, member, q, inside, rfl, rfl⟩
    obtain ⟨i, found⟩ := List.mem_iff_getElem?.mp member
    exact ⟨i, s.objs, ⟨s, found, rfl⟩, ⟨s, found, rfl⟩, inside⟩
  · rintro ⟨i, objs, ⟨s, found, rfl⟩, ⟨s', found', rfl⟩, inside⟩
    cases found.symm.trans found'
    exact ⟨s, List.mem_of_getElem? found, p, inside, rfl, rfl⟩

theorem owed_keys : data.owed.map Prod.fst = (data.state.map (·.objs)).flatten := by
  rw [EmpiricalData.owed, List.map_flatMap, List.flatMap]
  simp only [List.map_map]
  congr 1
  exact List.map_congr_left fun s _ => List.map_id _

theorem Lived.owed_nodup (lived : Lived data calls) (fresh : Fresh (tenures calls)) :
    (data.owed.map Prod.fst).Nodup := by
  have sound := lived.guarded.sound fresh
  rw [owed_keys, List.nodup_flatten]
  refine ⟨fun objs member => ?_, List.pairwise_iff_getElem.mpr fun i j before after earlier => ?_⟩
  · obtain ⟨i, found⟩ := List.mem_iff_getElem?.mp member
    exact sound.nodup i objs found
  · exact sound.disjoint i j _ _ (List.getElem?_eq_getElem before) (List.getElem?_eq_getElem after)
      (Nat.ne_of_lt earlier)

theorem Lived.owed_held (lived : Lived data calls) (fresh : Fresh (tenures calls)) :
    ∀ entry ∈ data.owed, heldAfter (tenures calls) entry.1 = some entry.2 := by
  rintro ⟨p, size⟩ member
  obtain ⟨i, objs, sizeEq, found, inside⟩ := mem_owed_iff.mp member
  rw [heldAfter_tenures]
  exact (lived.guarded.sound fresh).tracked i size objs sizeEq found p inside

/-- The destructor frees what is live, each object once and with its size, and nothing is live
behind it. -/
theorem Lived.kept (lived : Lived data calls) :
    Guarded (tenures (destroy data calls)) ∧ (Fresh (tenures (destroy data calls)) →
      ∀ p, heldAfter (tenures (destroy data calls)) p = none) := by
  rw [tenures_destroy]
  obtain ⟨guarded, after⟩ := guarded_append_releases lived.guarded.guarded lived.owed_nodup
    lived.owed_held
  refine ⟨guarded, fun freshAll p => ?_⟩
  have fresh : Fresh (tenures calls) := freshAll.of_append
  rw [after fresh p]
  split
  · rfl
  · rename_i absent
    cases alive : heldAfter (tenures calls) p with
    | none => rfl
    | some size =>
      rw [heldAfter_tenures] at alive
      obtain ⟨i, objs, found, member⟩ := lived.guarded.complete fresh p size alive
      rw [owed_keys] at absent
      exact absurd (List.mem_flatten.mpr ⟨objs, List.mem_of_getElem? found, member⟩) absent

end Destroy

/-! ### The length of the repair -/

/-- How far two counts are apart. -/
def apart (count target : Nat) : Nat := (count - target) + (target - count)

def distance (counts targets : List Nat) : Nat := (List.zipWith apart counts targets).sum

theorem distance_self (counts : List Nat) : distance counts counts = 0 := by
  induction counts with
  | nil => rfl
  | cons count counts inductionHypothesis =>
    show apart count count + distance counts counts = 0
    rw [inductionHypothesis, apart, Nat.sub_self]

theorem distance_set {counts targets : List Nat} {i count target : Nat}
    (counted : counts[i]? = some count) (wanted : targets[i]? = some target) (changed : Nat) :
    distance (counts.set i changed) targets + apart count target =
      distance counts targets + apart changed target := by
  induction counts generalizing i targets with
  | nil => cases counted
  | cons first counts inductionHypothesis =>
    cases targets with
    | nil => cases wanted
    | cons aim targets =>
      cases i with
      | zero =>
        cases counted
        cases wanted
        show apart changed target + distance counts targets + _ = _ + distance counts targets + _
        omega
      | succ i =>
        have others := inductionHypothesis counted wanted
        show apart first aim + distance (counts.set i changed) targets + _ =
          apart first aim + distance counts targets + _
        omega

/-- The objects of the classes at the snapshot. -/
def EmpiricalData.targets (data : EmpiricalData Weight) : List Nat :=
  data.snapshotState.map fun s => s.objs.length

/-- The events so far, and those that a repair would still add. -/
def EmpiricalData.effort (data : EmpiricalData Weight) : Nat :=
  data.recorded.length + distance data.counts data.targets

section Effort

variable [Zero Weight] [Add Weight] [Neg Weight] {data next : EmpiricalData Weight}

/-- What a recorded event does to the counts. -/
theorem recordNext_counts {event : RecordEvent} (recorded : recordNext data event = some next) :
    next.recorded.length = data.recorded.length + 1 ∧ next.snapshotState = data.snapshotState ∧
      ∃ count, data.counts[event.class]? = some count ∧
        (event.isBirth = true ∧ next.counts = data.counts.set event.class (count + 1) ∨
          event.isBirth = false ∧ 0 < count ∧
            next.counts = data.counts.set event.class (count - 1)) := by
  cases event with
  | birth i =>
    simp only [recordNext, recordBirth, Option.bind_eq_bind, Option.bind_eq_some_iff,
      Option.pure_def, Option.some.injEq] at recorded
    obtain ⟨s, found, rfl⟩ := recorded
    refine ⟨List.length_append, rfl, s.objs.length, ?_, Or.inl ⟨rfl, ?_⟩⟩
    · rw [EmpiricalData.counts, List.getElem?_map, RecordEvent.class, found]
      rfl
    · show List.map _ (data.state.set i _) = _
      rw [List.map_set, List.length_append]
      rfl
  | death i toFree =>
    simp only [recordNext, recordDeath, Option.bind_eq_bind, Option.bind_eq_some_iff,
      Option.pure_def, Option.some.injEq] at recorded
    obtain ⟨s, found, _, live, _, _, _, _, rfl⟩ := recorded
    refine ⟨List.length_append, rfl, s.objs.length, ?_, Or.inr ⟨rfl, ?_, ?_⟩⟩
    · rw [EmpiricalData.counts, List.getElem?_map, RecordEvent.class, found]
      rfl
    · exact List.length_pos_iff.mpr ((Option.guard_eq_some' _).mp live)
    · show List.map _ (data.state.set i _) = _
      rw [List.map_set, length_swapRemove]
      rfl

/-- A class without a snapshot is at no distance. -/
theorem distance_set_of_none {counts targets : List Nat} {i : Nat} (missing : targets[i]? = none)
    (changed : Nat) : distance (counts.set i changed) targets = distance counts targets := by
  induction counts generalizing i targets with
  | nil => rfl
  | cons first counts inductionHypothesis =>
    cases targets with
    | nil => cases i <;> rfl
    | cons aim targets =>
      cases i with
      | zero => cases missing
      | succ i => exact congrArg (apart first aim + ·) (inductionHypothesis missing)

theorem recordNext_effort (event : RecordEvent) (recorded : recordNext data event = some next) :
    next.effort ≤ data.effort + 2 := by
  obtain ⟨longer, snapshot, count, counted, counts⟩ := recordNext_counts recorded
  have targets : next.targets = data.targets := congrArg (List.map _) snapshot
  unfold EmpiricalData.effort
  rw [longer, targets]
  cases wanted : data.targets[event.class]? with
  | none =>
    obtain ⟨-, counts⟩ | ⟨-, -, counts⟩ := counts
    · rw [counts, distance_set_of_none wanted]
      omega
    · rw [counts, distance_set_of_none wanted]
      omega
  | some target =>
    obtain ⟨-, counts⟩ | ⟨-, -, counts⟩ := counts
    · have moved := distance_set counted wanted (count + 1)
      rw [counts]
      unfold apart at moved
      omega
    · have moved := distance_set counted wanted (count - 1)
      rw [counts]
      unfold apart at moved
      omega

theorem recordAll_effort {events : List RecordEvent}
    (recorded : recordAll events data = some next) :
    next.effort ≤ data.effort + 2 * events.length := by
  induction events generalizing data with
  | nil =>
    cases recorded
    exact Nat.le_refl _
  | cons event rest inductionHypothesis =>
    obtain ⟨middle, first, later⟩ := Option.bind_eq_some_iff.mp recorded
    have step := recordNext_effort event first
    have others := inductionHypothesis later
    rw [List.length_cons]
    omega

/-- An event that brings its class nearer to the snapshot costs nothing: it is one of those that
were still to be added. -/
theorem recordNext_nearer {event : RecordEvent} {s snapshot : SizeState Weight}
    (found : data.state[event.class]? = some s)
    (wanted : data.snapshotState[event.class]? = some snapshot)
    (recorded : recordNext data event = some next)
    (nearer : if event.isBirth then s.objs.length < snapshot.objs.length
      else snapshot.objs.length < s.objs.length) : next.effort = data.effort := by
  obtain ⟨longer, kept, count, counted, counts⟩ := recordNext_counts recorded
  have targets : next.targets = data.targets := congrArg (List.map _) kept
  have target : data.targets[event.class]? = some snapshot.objs.length := by
    rw [EmpiricalData.targets, List.getElem?_map, wanted]
    rfl
  have same : s.objs.length = count := by
    rw [EmpiricalData.counts, List.getElem?_map, found] at counted
    exact Option.some.inj counted
  rw [same] at nearer
  unfold EmpiricalData.effort
  rw [longer, targets]
  obtain ⟨isBirth, counts⟩ | ⟨isDeath, -, counts⟩ := counts
  · rw [isBirth, if_pos rfl] at nearer
    have moved := distance_set counted target (count + 1)
    rw [counts]
    unfold apart at moved
    omega
  · rw [isDeath, if_neg Bool.false_ne_true] at nearer
    have moved := distance_set counted target (count - 1)
    rw [counts]
    unfold apart at moved
    omega

theorem recordBirthsUpTo_effort {i fuel : Nat} {snapshot : SizeState Weight}
    (wanted : data.snapshotState[i]? = some snapshot)
    (recorded : recordBirthsUpTo i snapshot.objs.length fuel data = some next) :
    next.effort = data.effort ∧ next.snapshotState = data.snapshotState := by
  induction fuel generalizing data with
  | zero =>
    obtain ⟨s, _, recorded⟩ := Option.bind_eq_some_iff.mp recorded
    split at recorded
    · cases recorded
    · cases recorded
      exact ⟨rfl, rfl⟩
  | succ fuel inductionHypothesis =>
    obtain ⟨s, found, recorded⟩ := Option.bind_eq_some_iff.mp recorded
    split at recorded
    · rename_i short
      obtain ⟨middle, birth, recorded⟩ := Option.bind_eq_some_iff.mp recorded
      have step : recordNext data (.birth i) = some middle := birth
      have named : data.state[(RecordEvent.birth i).class]? = some s := found
      obtain ⟨-, kept, -⟩ := recordNext_counts step
      obtain ⟨effort, kept'⟩ := inductionHypothesis (kept ▸ wanted) recorded
      exact ⟨effort.trans (recordNext_nearer named wanted step short), kept'.trans kept⟩
    · cases recorded
      exact ⟨rfl, rfl⟩

theorem recordDeathsDownTo_effort {draw : Nat → Nat → Nat} {i fuel : Nat}
    {snapshot : SizeState Weight} (wanted : data.snapshotState[i]? = some snapshot)
    (recorded : recordDeathsDownTo draw i snapshot.objs.length fuel data = some next) :
    next.effort = data.effort ∧ next.snapshotState = data.snapshotState := by
  induction fuel generalizing data with
  | zero =>
    obtain ⟨s, _, recorded⟩ := Option.bind_eq_some_iff.mp recorded
    split at recorded
    · cases recorded
    · cases recorded
      exact ⟨rfl, rfl⟩
  | succ fuel inductionHypothesis =>
    obtain ⟨s, found, recorded⟩ := Option.bind_eq_some_iff.mp recorded
    split at recorded
    · rename_i long
      obtain ⟨middle, death, recorded⟩ := Option.bind_eq_some_iff.mp recorded
      have step : recordNext data (.death i (draw i s.objs.length)) = some middle := death
      have named : data.state[(RecordEvent.death i (draw i s.objs.length)).class]? = some s := found
      obtain ⟨-, kept, -⟩ := recordNext_counts step
      obtain ⟨effort, kept'⟩ := inductionHypothesis (kept ▸ wanted) recorded
      exact ⟨effort.trans (recordNext_nearer named wanted step long), kept'.trans kept⟩
    · cases recorded
      exact ⟨rfl, rfl⟩

theorem recordRepair_effort {draw : Nat → Nat → Nat}
    (repaired : recordRepairToSnapshotState draw data = some next) : next.effort = data.effort := by
  unfold recordRepairToSnapshotState at repaired
  generalize List.range data.state.length = classes at repaired
  induction classes generalizing data with
  | nil =>
    cases repaired
    rfl
  | cons i rest inductionHypothesis =>
    obtain ⟨middle, here, others⟩ := Option.bind_eq_some_iff.mp repaired
    obtain ⟨s, _, here⟩ := Option.bind_eq_some_iff.mp here
    obtain ⟨snapshot, wanted, here⟩ := Option.bind_eq_some_iff.mp here
    obtain ⟨grown, births, deaths⟩ := Option.bind_eq_some_iff.mp here
    obtain ⟨first, kept⟩ := recordBirthsUpTo_effort wanted births
    obtain ⟨second, -⟩ := recordDeathsDownTo_effort (kept ▸ wanted) deaths
    exact (inductionHypothesis others).trans (second.trans first)

end Effort

/-! ### The births of a repaired trace -/

theorem sum_set {values : List Nat} {i old : Nat} (found : values[i]? = some old) (new : Nat) :
    (values.set i new).sum + old = values.sum + new := by
  induction values generalizing i with
  | nil => cases found
  | cons first values inductionHypothesis =>
    cases i with
    | zero =>
      cases found
      simp only [List.set_cons_zero, List.sum_cons]
      omega
    | succ i =>
      have others := inductionHypothesis found
      simp only [List.set_cons_succ, List.sum_cons]
      omega

/-- All births and all deaths of a run, on the number of all objects. -/
theorem symbolicRun_total {trace : List RecordEvent} {symbolic next : Symbolic}
    (run : symbolicRun trace symbolic = some next) :
    (next.indices.map List.length).sum + trace.length =
      (symbolic.indices.map List.length).sum + 2 * trace.countP RecordEvent.isBirth := by
  induction trace generalizing symbolic with
  | nil =>
    cases run
    rfl
  | cons event rest inductionHypothesis =>
    obtain ⟨middle, step, run⟩ := Option.bind_eq_some_iff.mp run
    have later := inductionHypothesis run
    obtain ⟨i, objs, rfl, found, rfl⟩ | ⟨i, toFree, objs, index, rfl, found, picked, rfl⟩ :=
      symbolicStep_cases step
    · have length : (symbolic.indices.map List.length)[i]? = some objs.length := by
        rw [List.getElem?_map, found]
        rfl
      have grown := sum_set length (objs.length + 1)
      have isBirth : (RecordEvent.birth i).isBirth = true := rfl
      rw [List.map_set, List.length_append, List.length_singleton] at later
      rw [List.countP_cons_of_pos isBirth, List.length_cons]
      omega
    · have length : (symbolic.indices.map List.length)[i]? = some objs.length := by
        rw [List.getElem?_map, found]
        rfl
      have positive : toFree < objs.length := (List.getElem?_eq_some_iff.mp picked).1
      have shrunk := sum_set length (objs.length - 1)
      have isDeath : ¬ (RecordEvent.death i toFree).isBirth = true := Bool.false_ne_true
      rw [List.map_set, length_swapRemove] at later
      rw [List.countP_cons_of_neg isDeath, List.length_cons]
      omega

theorem length_birthSizes (sizes : List Nat) (trace : List RecordEvent) :
    (birthSizes sizes trace).length = trace.countP RecordEvent.isBirth := by
  induction trace with
  | nil => rfl
  | cons event rest inductionHypothesis =>
    cases event with
    | birth i =>
      have isBirth : (RecordEvent.birth i).isBirth = true := rfl
      rw [List.countP_cons_of_pos isBirth, ← inductionHypothesis]
      rfl
    | death i toFree =>
      have isDeath : ¬ (RecordEvent.death i toFree).isBirth = true := Bool.false_ne_true
      rw [List.countP_cons_of_neg isDeath, ← inductionHypothesis]
      rfl

/-- Half of a repaired trace are births. -/
theorem TraceOk.births_half {sizes : List Nat} {live : List (List Ptr)} {trace : List RecordEvent}
    {final : Symbolic} (ok : TraceOk sizes live trace final) :
    trace.length = 2 * (birthSizes sizes trace).length := by
  have total := symbolicRun_total ok.run
  have started : (symbolicStart (live.map List.length)).indices.map List.length =
      live.map List.length := by
    simp [symbolicStart]
  rw [ok.repaired, started] at total
  rw [length_birthSizes]
  omega

/-! ### From the constructor to the rounds -/

/-- The object between two rounds: `counts` are its objects in each class. -/
structure Prepared (sizes counts : List Nat) (trace : List RecordEvent)
    (data : EmpiricalData Weight) (calls : List Call) : Prop where
  ready : ∃ live final, TraceOk sizes live trace final ∧ Ready sizes live trace final data ∧
    live.map List.length = counts
  classSizes : data.sizes = sizes
  guarded : EagerGuarded sizes ⟨data.state.map (·.objs), calls⟩
  shadowed : Shadowed calls data

section Life

variable {sizes counts : List Nat} {trace : List RecordEvent} {data : EmpiricalData Weight}
  {calls : List Call}

theorem Prepared.lived (prepared : Prepared sizes counts trace data calls) : Lived data calls where
  guarded := by
    rw [prepared.classSizes]
    exact prepared.guarded

theorem Prepared.counts_eq (prepared : Prepared sizes counts trace data calls) :
    data.counts = counts := by
  obtain ⟨live, final, ok, ready, lengths⟩ := prepared.ready
  rw [← lengths, ← ready.objs, List.map_map]
  rfl

theorem Prepared.traceLength (prepared : Prepared sizes counts trace data calls) :
    data.traceLength = trace.length ∧ trace.length = 2 * (birthSizes sizes trace).length := by
  obtain ⟨live, final, ok, ready, -⟩ := prepared.ready
  refine ⟨?_, ok.births_half⟩
  rw [EmpiricalData.traceLength, ready.planned.birthOrDeath, List.length_map]

/-- A round makes one call for each event of the trace, and leaves the object as it found it but
for the pointers and the totals. -/
theorem Prepared.round (prepared : Prepared sizes counts trace data calls) (alloc : Allocator) :
    ∃ traced operations after, replayTrace alloc data calls = some (traced, calls ++ operations) ∧
      operations.length = trace.length ∧ allocated operations = birthSizes sizes trace ∧
      prepareNextReplay traced = some after ∧ traced.ledger = data.ledger.replayed ∧
      after.ledger = data.ledger.replayed ∧
      Prepared sizes counts trace after (calls ++ operations) := by
  obtain ⟨live, final, ok, ready, lengths⟩ := prepared.ready
  obtain ⟨traced, after, live', calls', replay, prepare, eager, lengths', ready'⟩ :=
    replayRound_eager ok ready alloc calls
  obtain ⟨operations, same, length, births⟩ := eagerRun_operations eager
  cases same
  obtain ⟨traced', operations', after', -, replay', -, -, prepare', -, -, -, shadowed⟩ :=
    replayRound_accounts ok ready alloc prepared.shadowed
  simp only [replay, Option.some.injEq, Prod.mk.injEq] at replay'
  obtain ⟨rfl, sameCalls⟩ := replay'
  cases prepare.symm.trans prepare'
  rw [← sameCalls] at shadowed
  have ledger := replayTrace_ledger replay
  refine ⟨traced, operations, after, replay, length, births, prepare, ledger,
    (prepareNextReplay_ledger prepare).trans ledger,
    ⟨live', final, ok.of_lengths lengths', ready', lengths'.trans lengths⟩, ?_, ?_, shadowed⟩
  · rw [prepareNextReplay_sizes prepare, replayTrace_sizes replay, prepared.classSizes]
  · have guarded := prepared.guarded
    rw [ready.objs] at guarded
    rw [ready'.objs]
    exact guarded.run eager

variable [Zero Weight] [Add Weight] [Neg Weight]

omit [Neg Weight] in
theorem construct_guarded {alloc : Allocator} {weights : List (Nat × Weight)} {draws : List Nat}
    (built : construct alloc weights draws = some (data, calls)) :
    data.sizes = weights.map Prod.fst ∧
      EagerGuarded (weights.map Prod.fst) ⟨data.state.map (·.objs), calls⟩ := by
  obtain ⟨recording, -, warmUp⟩ := construct_recording alloc built
  exact ⟨recording.classSizes, (eagerGuarded_empty _).run warmUp⟩

omit [Neg Weight] in
theorem construct_lived {alloc : Allocator} {weights : List (Nat × Weight)} {draws : List Nat}
    (built : construct alloc weights draws = some (data, calls)) : Lived data calls where
  guarded := by
    obtain ⟨classSizes, guarded⟩ := construct_guarded built
    rwa [classSizes]

/-- What follows a recording cannot fail, makes no calls, and prepares the first round. The repair
adds no more events than were recorded. -/
theorem exists_prepared {alloc : Allocator} {weights : List (Nat × Weight)} {draws : List Nat}
    {events : List RecordEvent} {draw : Nat → Nat → Nat} {recorded : EmpiricalData Weight}
    (admissible : ∀ i length, 0 < length → draw i length < length)
    (fewClasses : weights.length ≤ 2 ^ 16) (short : 2 * events.length < 2 ^ 32)
    (built : construct alloc weights draws = some (data, calls))
    (recordedEq : recordAll events data = some recorded) :
    ∃ repaired restored prepared repairs,
      recordRepairToSnapshotState draw recorded = some repaired ∧
      restoreSnapshot repaired = some restored ∧ buildUpdateVectors restored = some prepared ∧
      repairs.length ≤ events.length ∧
      Prepared (weights.map Prod.fst) data.counts (events ++ repairs) prepared calls := by
  obtain ⟨recording, noneRecorded, warmUp⟩ := construct_recording alloc built
  obtain ⟨repaired, symbolic, repairs, repair, extended, recording', lengths⟩ :=
    exists_repaired admissible built recordedEq
  have few : repairs.length ≤ events.length := by
    have start : data.effort = 0 := by
      have snapshot : data.targets = data.counts := by
        have objs := congrArg (List.map List.length) recording.snapshot
        rw [List.map_map, List.map_map] at objs
        exact objs
      rw [EmpiricalData.effort, noneRecorded, snapshot, distance_self]
      rfl
    have spent := recordAll_effort recordedEq
    have whole : repaired.recorded.length ≤ repaired.effort := Nat.le_add_right _ _
    rw [recordRepair_effort repair, extended, List.length_append] at whole
    omega
  have shorter : repaired.recorded.length < 2 ^ 32 := by
    rw [extended, List.length_append]
    omega
  have classCount : (data.state.map (·.objs)).length = weights.length := by
    rw [List.length_map, construct_classes built]
  obtain ⟨restored, prepared, restore, build, isReady, ok⟩ := exists_ready recording' lengths
    (by rw [List.length_map, classCount]) (classCount ▸ fewClasses) shorter
  have shadowed : Shadowed calls repaired := recordRepair_keeps recordNext_shadowed
    (recordAll_keeps recordNext_shadowed (construct_shadowed built) recordedEq) repair
  have ledger : prepared.ledger = repaired.ledger :=
    (buildUpdateVectors_ledger build).trans (restoreSnapshot_ledger restore)
  rw [extended] at isReady ok
  refine ⟨repaired, restored, prepared, repairs, repair, restore, build, few,
    ⟨_, symbolic, ok, isReady, List.map_map⟩, ?_, ?_, shadowed.tells.of_ledger ledger, ?_,
    ledger ▸ shadowed.shadows⟩
  · rw [buildUpdateVectors_sizes build, restoreSnapshot_sizes restore]
    exact recording'.classSizes
  · rw [isReady.objs]
    exact (construct_guarded built).2
  · rw [isReady.planned.birthOrDeath, isReady.planned.actualSizes, List.length_map, List.length_map]

end Life

end Fleetbench.Tcmalloc
