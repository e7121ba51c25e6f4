/-
This file proves that the deferred replay refines the eager simulation. Inside a
round, the replay and the eager simulation make the same calls because every
name stands for one pointer: the slot a death reads holds the pointer of the
name that died. After the round, the three update lists turn the vectors before
the round into the vectors of the eager simulation and load the death slots
again, so the next round starts as this one did.
-/

import Fleetbench.Tcmalloc.UpdateVectors

namespace Fleetbench.Tcmalloc

open Library

variable {Weight : Type} {sizes : List Nat} {live : List (List Ptr)}
  {trace : List RecordEvent} {final : Symbolic}

/-! ### Inside a round -/

/-- The middle of a round. `symbolic` is the symbolic state of the events done, `born` the
pointers born in the round, `start` the object when the round started. -/
structure Replaying (live : List (List Ptr)) (final symbolic : Symbolic) (born : List Ptr)
    (start data : EmpiricalData Weight) (eagerLive : List (List Ptr)) : Prop where
  frame : data = { start with
    deathObjects := data.deathObjects
    birthObjects := data.birthObjects
    birthObjectIndex := symbolic.births
    deathObjectIndex := symbolic.deaths.length }
  births : data.birthObjects.length = final.births
  deaths : data.deathObjects.length = final.deaths.length
  bornLength : born.length = symbolic.births
  eagerLength : eagerLive.length = symbolic.indices.length
  named : ∀ (i : Nat) objs, symbolic.indices[i]? = some objs →
    eagerLive[i]? = some (objs.map (pointerOf live born i))
  killed : ∀ (j i k : Nat), final.deaths[j]? = some (i, ⟨true, k⟩) → k < born.length →
    data.deathObjects[j]? = born[k]?
  kept : ∀ (i slot k : Nat) objs, final.indices[i]? = some objs → objs[slot]? = some ⟨true, k⟩ →
    k < born.length → data.birthObjects[k]? = born[k]?
  loaded : ∀ (j i old : Nat), final.deaths[j]? = some (i, ⟨false, old⟩) →
    data.deathObjects[j]? = some (pointerOf live born i ⟨false, old⟩)

/-- What the proof of a round may assume about its trace. -/
structure TraceOk (sizes : List Nat) (live : List (List Ptr)) (trace : List RecordEvent)
    (final : Symbolic) : Prop where
  run : symbolicRun trace (symbolicStart (live.map List.length)) = some final
  repaired : final.indices.map List.length = live.map List.length
  short : trace.length < 2 ^ 32
  sameLength : sizes.length = live.length

theorem TraceOk.placed (ok : TraceOk sizes live trace final) :
    Placed (live.map List.length) final :=
  placed_run (placed_start _) ok.run

theorem TraceOk.small (ok : TraceOk sizes live trace final) :
    final.births + final.deaths.length = trace.length ∧ final.births ≤ 2 ^ 32 := by
  have total := symbolicRun_length ok.run
  have short := ok.short
  have started : (symbolicStart (live.map List.length)).births +
      (symbolicStart (live.map List.length)).deaths.length = 0 := rfl
  omega

variable {symbolic next : Symbolic} {born : List Ptr} {start data : EmpiricalData Weight}
  {eagerLive : List (List Ptr)}

/-- The names of a state met during a round stand for births of the round so far. -/
theorem Replaying.pointerOf_concat (replaying : Replaying live final symbolic born start data
    eagerLive) (placed : Placed (live.map List.length) symbolic)
    (small : symbolic.births ≤ 2 ^ 32) {i : Nat} {objs : List ObjectIndex}
    (found : symbolic.indices[i]? = some objs) (p : Ptr) :
    objs.map (pointerOf live (born ++ [p]) i) = objs.map (pointerOf live born i) := by
  refine List.map_congr_left fun index member => ?_
  refine Tcmalloc.pointerOf_concat live born p i index fun isBorn => ?_
  obtain ⟨slot, bound, rfl⟩ := List.mem_iff_getElem.mp member
  have standing := List.getElem?_eq_getElem bound
  rw [replaying.bornLength]
  generalize objs[slot] = index at isBorn standing
  obtain ⟨flag, k⟩ := index
  cases isBorn
  exact placed.index_lt small (Symbolic.places_pos_of_live found standing)

/-- Every birth of the trace has an address. -/
theorem birthPointer_cases (ok : TraceOk sizes live trace final) {k : Nat}
    (happens : k < final.births) :
    (∃ j i : Nat, final.deaths[j]? = some (i, ⟨true, k⟩)) ∨
      ∃ (i slot : Nat) (objs : List ObjectIndex), final.indices[i]? = some objs ∧
        objs[slot]? = some ⟨true, k⟩ := by
  have once := ok.placed.once ok.small.2 k
  rw [if_pos happens, Symbolic.places] at once
  by_cases dead : (⟨true, k⟩ : ObjectIndex) ∈ final.deaths.map Prod.snd
  · obtain ⟨⟨i, index⟩, member, rfl⟩ := List.mem_map.mp dead
    obtain ⟨j, bound, standing⟩ := List.mem_iff_getElem.mp member
    exact Or.inl ⟨j, i, by rw [List.getElem?_eq_getElem bound, standing]⟩
  · rw [List.count_eq_zero_of_not_mem dead, Nat.zero_add] at once
    have member : (⟨true, k⟩ : ObjectIndex) ∈ final.indices.flatten :=
      List.count_pos_iff.mp (by omega)
    obtain ⟨objs, inClass, inside⟩ := List.mem_flatten.mp member
    obtain ⟨i, iBound, rfl⟩ := List.mem_iff_getElem.mp inClass
    obtain ⟨slot, slotBound, standing⟩ := List.mem_iff_getElem.mp inside
    exact Or.inr ⟨i, slot, _, List.getElem?_eq_getElem iBound,
      by rw [List.getElem?_eq_getElem slotBound, standing]⟩

/-- What a birth leaves behind once its pointer, the last of `born`, has been written through its
address. -/
structure Stored (final : Symbolic) (born : List Ptr) (data stored : EmpiricalData Weight) :
    Prop where
  frame : stored = { data with
    deathObjects := stored.deathObjects, birthObjects := stored.birthObjects }
  births : stored.birthObjects.length = final.births
  deaths : stored.deathObjects.length = final.deaths.length
  killed : ∀ (j i k : Nat), final.deaths[j]? = some (i, ⟨true, k⟩) → k < born.length →
    stored.deathObjects[j]? = born[k]?
  kept : ∀ (i slot k : Nat) objs, final.indices[i]? = some objs →
    objs[slot]? = some ⟨true, k⟩ → k < born.length → stored.birthObjects[k]? = born[k]?
  loaded : ∀ (j i old : Nat), final.deaths[j]? = some (i, ⟨false, old⟩) →
    stored.deathObjects[j]? = data.deathObjects[j]?

/-- A birth before the last one. -/
theorem getElem?_concat_of_ne {k : Nat} {p : Ptr} (inside : k < (born ++ [p]).length)
    (different : k ≠ born.length) : k < born.length ∧ (born ++ [p])[k]? = born[k]? := by
  rw [List.length_append, List.length_singleton] at inside
  have older : k < born.length := by omega
  exact ⟨older, List.getElem?_append_left older⟩

/-- The address of a birth that dies in the trace is the slot of its death. -/
theorem stored_deathObject (ok : TraceOk sizes live trace final)
    (planned : Planned sizes trace final start)
    (replaying : Replaying live final symbolic born start data eagerLive) {j i : Nat}
    (dead : final.deaths[j]? = some (i, ⟨true, born.length⟩)) (p : Ptr) :
    ∃ stored, storeAt (.deathObject j) p data = some stored ∧
      Stored final (born ++ [p]) data stored := by
  have room : j < data.deathObjects.length := by
    rw [replaying.deaths]
    exact (List.getElem?_eq_some_iff.mp dead).1
  refine ⟨{ data with deathObjects := data.deathObjects.set j p }, ?_, rfl, replaying.births,
    (List.length_set ..).trans replaying.deaths, ?_, ?_, ?_⟩
  · rw [storeAt, writeAt_of_lt room]
    rfl
  · intro j' i' k dead' inside
    by_cases same : k = born.length
    · subst same
      have sameSlot : j = j' := by
        have first := planned.killed j i _ dead
        rw [planned.killed j' i' _ dead'] at first
        cases first
        rfl
      subst sameSlot
      rw [List.getElem?_concat_length]
      exact List.getElem?_set_self room
    · obtain ⟨older, oldEq⟩ := getElem?_concat_of_ne inside same
      have different : j ≠ j' := by
        rintro rfl
        rw [dead] at dead'
        cases dead'
        exact same rfl
      rw [oldEq, ← replaying.killed j' i' k dead' older]
      exact List.getElem?_set_ne different
  · intro i' slot' k objs' inClass' standing' inside
    have different : k ≠ born.length := by
      rintro rfl
      exact ok.placed.notMem_deaths ok.small.2 (List.mem_of_getElem? inClass')
        (List.mem_of_getElem? standing') j i dead
    obtain ⟨older, oldEq⟩ := getElem?_concat_of_ne inside different
    rw [oldEq]
    exact replaying.kept i' slot' k objs' inClass' standing' older
  · intro j' i' old dead'
    have different : j ≠ j' := by
      rintro rfl
      rw [dead] at dead'
      cases dead'
    exact List.getElem?_set_ne different

/-- The address of a birth that outlives the trace is its own slot. -/
theorem stored_birthObject (ok : TraceOk sizes live trace final)
    (replaying : Replaying live final symbolic born start data eagerLive) {i slot : Nat}
    {objs : List ObjectIndex} (inClass : final.indices[i]? = some objs)
    (standing : objs[slot]? = some ⟨true, born.length⟩) (happens : born.length < final.births)
    (p : Ptr) :
    ∃ stored, storeAt (.birthObject born.length) p data = some stored ∧
      Stored final (born ++ [p]) data stored := by
  have room : born.length < data.birthObjects.length := by
    rw [replaying.births]
    exact happens
  refine ⟨{ data with birthObjects := data.birthObjects.set born.length p }, ?_, rfl,
    (List.length_set ..).trans replaying.births, replaying.deaths, ?_, ?_, fun _ _ _ _ => rfl⟩
  · rw [storeAt, writeAt_of_lt room]
    rfl
  · intro j' i' k dead' inside
    have different : k ≠ born.length := by
      rintro rfl
      exact ok.placed.notMem_deaths ok.small.2 (List.mem_of_getElem? inClass)
        (List.mem_of_getElem? standing) j' i' dead'
    obtain ⟨older, oldEq⟩ := getElem?_concat_of_ne inside different
    rw [oldEq]
    exact replaying.killed j' i' k dead' older
  · intro i' slot' k objs' inClass' standing' inside
    by_cases same : k = born.length
    · subst same
      rw [List.getElem?_concat_length]
      exact List.getElem?_set_self room
    · obtain ⟨older, oldEq⟩ := getElem?_concat_of_ne inside same
      rw [oldEq, ← replaying.kept i' slot' k objs' inClass' standing' older]
      exact List.getElem?_set_ne (Ne.symm same)

/-- A birth writes the new pointer through its address; nothing else the round relies on
moves. -/
theorem storeAt_replaying (ok : TraceOk sizes live trace final)
    (planned : Planned sizes trace final start)
    (replaying : Replaying live final symbolic born start data eagerLive)
    (happens : symbolic.births < final.births) (p : Ptr) :
    ∃ slot stored, data.birthPointers[data.birthObjectIndex]? = some slot ∧
      storeAt slot p data = some stored ∧ Stored final (born ++ [p]) data stored := by
  have address : data.birthPointers[data.birthObjectIndex]? =
      start.birthPointers[born.length]? := by
    rw [replaying.frame, replaying.bornLength]
  rw [← replaying.bornLength] at happens
  rcases birthPointer_cases ok happens with ⟨j, i, dead⟩ | ⟨i, slot, objs, inClass, standing⟩
  · obtain ⟨stored, store, isStored⟩ := stored_deathObject ok planned replaying dead p
    exact ⟨_, stored, address.trans (planned.killed j i _ dead), store, isStored⟩
  · obtain ⟨stored, store, isStored⟩ :=
      stored_birthObject ok replaying inClass standing happens p
    exact ⟨_, stored, address.trans (planned.kept i slot _ objs inClass standing), store,
      isStored⟩

theorem TraceOk.size_of_class (ok : TraceOk sizes live trace final)
    (placed : Placed (live.map List.length) symbolic) {i : Nat} {objs : List ObjectIndex}
    (found : symbolic.indices[i]? = some objs) : sizes[i]? = some (sizes.getD i 0) := by
  have bound : i < sizes.length := by
    rw [ok.sameLength, ← List.length_map List.length, ← placed.classes]
    exact (List.getElem?_eq_some_iff.mp found).1
  rw [List.getD_eq_getElem?_getD, List.getElem?_eq_getElem bound]
  rfl

/-- One birth of the round, on both sides. -/
theorem replayBirth_replaying (alloc : Allocator) (ok : TraceOk sizes live trace final)
    (planned : Planned sizes trace final start)
    (replaying : Replaying live final symbolic born start data eagerLive)
    (placed : Placed (live.map List.length) symbolic) {i : Nat}
    (step : symbolicStep symbolic (.birth i) = some next)
    (happens : symbolic.births < final.births) (calls : List Call) :
    ∃ stored born' eagerLive' calls',
      replayBirth alloc (sizes.getD i 0) data calls = some (stored, calls') ∧
      eagerStep alloc sizes ⟨eagerLive, calls⟩ (.birth i) = some ⟨eagerLive', calls'⟩ ∧
      Replaying live final next born' start
        { stored with birthObjectIndex := (stored.birthObjectIndex + 1) % 2 ^ 32 }
        eagerLive' := by
  obtain ⟨_, objs, same, found, rfl⟩ | ⟨_, _, _, _, impossible, _⟩ := symbolicStep_cases step
  swap
  · cases impossible
  cases same
  have small := ok.small
  have short := ok.short
  have sizeEq := ok.size_of_class placed found
  let p := alloc calls (sizes.getD i 0)
  obtain ⟨slot, stored, addressed, store, isStored⟩ :=
    storeAt_replaying ok planned replaying happens p
  refine ⟨stored, born ++ [p], eagerLive.set i (objs.map (pointerOf live born i) ++ [p]),
    calls ++ [.alloc (sizes.getD i 0) p], ?_, ?_, ?_⟩
  · rw [replayBirth, addressed]
    show (storeAt slot p data).bind _ = _
    rw [store]
    rfl
  · simp only [eagerStep, sizeEq, replaying.named i objs found, Option.bind_eq_bind,
      Option.bind_some, Option.pure_def]
    rfl
  · have inside : i < eagerLive.length := by
      rw [replaying.eagerLength]
      exact (List.getElem?_eq_some_iff.mp found).1
    have cursorBefore : stored.birthObjectIndex = symbolic.births := by
      rw [isStored.frame, replaying.frame]
    have cursor : (stored.birthObjectIndex + 1) % 2 ^ 32 = symbolic.births + 1 := by
      rw [cursorBefore]
      exact Nat.mod_eq_of_lt (by omega)
    refine ⟨?_, isStored.births, isStored.deaths, ?_, ?_, ?_, isStored.killed, isStored.kept, ?_⟩
    · rw [cursor, isStored.frame, replaying.frame]
    · rw [List.length_append, replaying.bornLength, List.length_singleton]
    · rw [List.length_set, List.length_set, replaying.eagerLength]
    · intro j others othersEq
      rcases getElem?_set_cases othersEq with ⟨rfl, rfl⟩ | ⟨different, othersOld⟩
      · rw [List.getElem?_set_self inside, List.map_append,
          replaying.pointerOf_concat placed (by omega) found]
        have wrapped : symbolic.births % 2 ^ 32 = born.length := by
          rw [replaying.bornLength]
          exact Nat.mod_eq_of_lt (by omega)
        rw [wrapped]
        simp [pointerOf]
      · rw [List.getElem?_set_ne (Ne.symm different),
          replaying.pointerOf_concat placed (by omega) othersOld]
        exact replaying.named j others othersOld
    · intro j other old dead
      show stored.deathObjects[j]? = _
      rw [isStored.loaded j other old dead]
      exact replaying.loaded j other old dead

/-- One death of the round, on both sides. -/
theorem replayDeath_replaying (alloc : Allocator) (ok : TraceOk sizes live trace final)
    (replaying : Replaying live final symbolic born start data eagerLive)
    (placed : Placed (live.map List.length) symbolic) {i toFree : Nat}
    (step : symbolicStep symbolic (.death i toFree) = some next)
    (later : next.deaths <+: final.deaths) (births : symbolic.births ≤ final.births)
    (calls : List Call) :
    ∃ eagerLive' calls', replayDeath (sizes.getD i 0) data calls = some calls' ∧
      eagerStep alloc sizes ⟨eagerLive, calls⟩ (.death i toFree) = some ⟨eagerLive', calls'⟩ ∧
      Replaying live final next born start
        { data with deathObjectIndex := (data.deathObjectIndex + 1) % 2 ^ 32 } eagerLive' := by
  obtain ⟨_, _, impossible, _⟩ | ⟨_, _, objs, index, same, found, picked, rfl⟩ :=
    symbolicStep_cases step
  · cases impossible
  cases same
  have small := ok.small
  have short := ok.short
  have sizeEq := ok.size_of_class placed found
  have dead : final.deaths[symbolic.deaths.length]? = some (i, index) := by
    obtain ⟨rest, restEq⟩ := later
    rw [← restEq, List.append_assoc, List.getElem?_append_right (Nat.le_refl _), Nat.sub_self]
    rfl
  have counted : symbolic.deaths.length < final.deaths.length :=
    (List.getElem?_eq_some_iff.mp dead).1
  have freed : data.deathObjects[data.deathObjectIndex]? = some (pointerOf live born i index) := by
    have cursor : data.deathObjectIndex = symbolic.deaths.length := by rw [replaying.frame]
    rw [cursor]
    obtain ⟨isBorn, k⟩ := index
    cases isBorn with
    | false => exact replaying.loaded _ i k dead
    | true =>
      have happened : k < born.length := by
        rw [replaying.bornLength]
        exact placed.index_lt (by omega) (Symbolic.places_pos_of_live found picked)
      rw [replaying.killed _ i k dead happened, List.getElem?_eq_getElem happened]
      simp [pointerOf, List.getD_eq_getElem?_getD, List.getElem?_eq_getElem happened]
  refine ⟨eagerLive.set i (swapRemove (objs.map (pointerOf live born i)) toFree),
    calls ++ [.dealloc (pointerOf live born i index) (sizes.getD i 0)], ?_, ?_, ?_⟩
  · rw [replayDeath, freed]
    rfl
  · have read :
        (objs.map (pointerOf live born i))[toFree]? = some (pointerOf live born i index) := by
      rw [List.getElem?_map, picked]
      rfl
    simp only [eagerStep, sizeEq, replaying.named i objs found, Option.bind_eq_bind,
      Option.bind_some, read, Option.pure_def]
  · have inside : i < eagerLive.length := by
      rw [replaying.eagerLength]
      exact (List.getElem?_eq_some_iff.mp found).1
    have cursorBefore : data.deathObjectIndex = symbolic.deaths.length := by
      rw [replaying.frame]
    have cursor : (data.deathObjectIndex + 1) % 2 ^ 32 = symbolic.deaths.length + 1 := by
      rw [cursorBefore]
      exact Nat.mod_eq_of_lt (by omega)
    refine ⟨?_, replaying.births, replaying.deaths, replaying.bornLength, ?_, ?_,
      replaying.killed, replaying.kept, replaying.loaded⟩
    · rw [cursor, replaying.frame, List.length_append, List.length_singleton]
    · rw [List.length_set, List.length_set, replaying.eagerLength]
    · intro j others othersEq
      rcases getElem?_set_cases othersEq with ⟨rfl, rfl⟩ | ⟨different, othersOld⟩
      · rw [List.getElem?_set_self inside, map_swapRemove]
      · rw [List.getElem?_set_ne (Ne.symm different)]
        exact replaying.named j others othersOld

/-- Behind `done` the cursors sum to its length, wrapped to 32 bits. -/
theorem Replaying.position (ok : TraceOk sizes live trace final) {done rest : List RecordEvent}
    (split : trace = done ++ rest)
    (runDone : symbolicRun done (symbolicStart (live.map List.length)) = some symbolic)
    (replaying : Replaying live final symbolic born start data eagerLive) :
    (data.birthObjectIndex + data.deathObjectIndex) % 2 ^ 32 = done.length := by
  have short := ok.short
  have doneLength := symbolicRun_length runDone
  have started : (symbolicStart (live.map List.length)).births +
      (symbolicStart (live.map List.length)).deaths.length = 0 := rfl
  have traceLength : trace.length = done.length + rest.length := by
    rw [split, List.length_append]
  have cursors : data.birthObjectIndex + data.deathObjectIndex =
      symbolic.births + symbolic.deaths.length := by rw [replaying.frame]
  omega

/-- The vectors of the trace hold the event behind `done` at that position. -/
theorem Replaying.current (planned : Planned sizes trace final start)
    {done rest : List RecordEvent} {event : RecordEvent} (split : trace = done ++ event :: rest)
    (replaying : Replaying live final symbolic born start data eagerLive) :
    done.length < data.birthOrDeath.length ∧
      data.birthOrDeath[done.length]? = some event.isBirth ∧
      data.birthOrDeathActualSizes[done.length]? = some (sizes.getD event.class 0) := by
  have birthOrDeath : data.birthOrDeath = trace.map RecordEvent.isBirth := by
    rw [replaying.frame]
    exact planned.birthOrDeath
  have actualSizes : data.birthOrDeathActualSizes =
      trace.map fun event => sizes.getD event.class 0 := by
    rw [replaying.frame]
    exact planned.actualSizes
  have current : (trace)[done.length]? = some event := by
    rw [split, List.getElem?_append_right (Nat.le_refl _), Nat.sub_self]
    rfl
  refine ⟨?_, ?_, ?_⟩
  · rw [birthOrDeath, List.length_map]
    exact (List.getElem?_eq_some_iff.mp current).1
  · rw [birthOrDeath, List.getElem?_map, current]
    rfl
  · rw [actualSizes, List.getElem?_map, current]
    rfl

/-- The replay loop over the rest of the trace follows the eager run over the same events. -/
theorem replayLoop_replaying (alloc : Allocator) (ok : TraceOk sizes live trace final)
    (planned : Planned sizes trace final start) {done rest : List RecordEvent}
    (split : trace = done ++ rest)
    (runDone : symbolicRun done (symbolicStart (live.map List.length)) = some symbolic)
    (runRest : symbolicRun rest symbolic = some final)
    (replaying : Replaying live final symbolic born start data eagerLive) (calls : List Call) :
    ∃ data' born' eagerLive' calls',
      replayLoop alloc rest.length data calls = some (data', calls') ∧
      eagerRun alloc sizes rest ⟨eagerLive, calls⟩ = some ⟨eagerLive', calls'⟩ ∧
      Replaying live final final born' start data' eagerLive' := by
  induction rest generalizing done symbolic data born eagerLive calls with
  | nil =>
    cases runRest
    refine ⟨data, born, eagerLive, calls, ?_, rfl, replaying⟩
    rw [List.append_nil] at split
    subst split
    have index := replaying.position ok (List.append_nil _).symm runDone
    have ended : ¬ (data.birthObjectIndex + data.deathObjectIndex) % 2 ^ 32 <
        data.birthOrDeath.length := by
      rw [index, replaying.frame]
      show ¬ trace.length < start.birthOrDeath.length
      rw [planned.birthOrDeath, List.length_map]
      exact Nat.lt_irrefl _
    unfold replayLoop
    exact if_neg ended
  | cons event rest inductionHypothesis =>
    obtain ⟨next, step, runNext⟩ := Option.bind_eq_some_iff.mp runRest
    have placed : Placed (live.map List.length) symbolic := placed_run (placed_start _) runDone
    have shifted : trace = (done ++ [event]) ++ rest := by
      rw [split, List.append_assoc]
      rfl
    have runShifted : symbolicRun (done ++ [event]) (symbolicStart (live.map List.length)) =
        some next := by
      rw [symbolicRun_append, runDone]
      show (symbolicStep symbolic event).bind (symbolicRun []) = some next
      rw [step]
      rfl
    have index := replaying.position ok split runDone
    obtain ⟨running, isBirth, size⟩ := replaying.current planned split
    rw [List.length_cons, eagerRun]
    unfold replayLoop
    simp only [index, if_pos running, isBirth, size, Option.bind_eq_bind, Option.bind_some]
    have birthsLater := symbolicRun_births runNext
    cases event with
    | birth i =>
      have happens : symbolic.births < final.births := by
        obtain ⟨_, _, _, _, rfl⟩ | ⟨_, _, _, _, impossible, _⟩ := symbolicStep_cases step
        · exact birthsLater
        · cases impossible
      obtain ⟨stored, born', eagerLive', calls', replayed, eager, replaying'⟩ :=
        replayBirth_replaying alloc ok planned replaying placed step happens calls
      obtain ⟨data', born'', eagerLive'', calls'', loop, run, final'⟩ :=
        inductionHypothesis shifted runShifted runNext replaying' calls'
      refine ⟨data', born'', eagerLive'', calls'', ?_, ?_, final'⟩
      · show (replayBirth alloc (sizes.getD i 0) data calls).bind _ = _
        rw [replayed]
        exact loop
      · rw [eager]
        exact run
    | death i toFree =>
      have births : symbolic.births ≤ final.births := by
        obtain ⟨_, _, impossible, _⟩ | ⟨_, _, _, _, _, _, _, rfl⟩ := symbolicStep_cases step
        · cases impossible
        · exact birthsLater
      obtain ⟨eagerLive', calls', replayed, eager, replaying'⟩ :=
        replayDeath_replaying alloc ok replaying placed step
          (symbolicRun_deaths runNext) births calls
      obtain ⟨data', born'', eagerLive'', calls'', loop, run, final'⟩ :=
        inductionHypothesis shifted runShifted runNext replaying' calls'
      refine ⟨data', born'', eagerLive'', calls'', ?_, ?_, final'⟩
      · show (replayDeath (sizes.getD i 0) data calls).bind _ = _
        rw [replayed]
        exact loop
      · rw [eager]
        exact run

/-! ### Between two rounds -/

/-- What the updates of class `i` need after a round, given the pointers `value` its names
stand for and the number of death slots. -/
structure ClassReady (final : Symbolic) (birthObjects : List Ptr) (slots i : Nat)
    (value : ObjectIndex → Ptr) (s : SizeState Weight) (names : List ObjectIndex) : Prop where
  planned : ClassPlanned final i s
  found : final.indices[i]? = some names
  sameLength : names.length = s.objs.length
  survivor : ∀ (slot old : Nat), names[slot]? = some ⟨false, old⟩ →
    slot ≤ old ∧ old < s.objs.length
  oldValue : ∀ old, old < s.objs.length → s.objs[old]? = some (value ⟨false, old⟩)
  bornValue : ∀ (slot k : Nat), names[slot]? = some ⟨true, k⟩ →
    birthObjects[k]? = some (value ⟨true, k⟩)
  room : ∀ (j old : Nat), final.deaths[j]? = some (i, ⟨false, old⟩) →
    old < s.objs.length ∧ j < slots

section ClassReady

variable {birthObjects : List Ptr} {slots i : Nat} {value : ObjectIndex → Ptr}
  {s : SizeState Weight} {names : List ObjectIndex}

theorem ClassReady.objMove (ready : ClassReady final birthObjects slots i value s names)
    (move : Move) : move ∈ s.objUpdate ↔
      names[move.toSlot]? = some ⟨false, move.fromSlot⟩ ∧ move.fromSlot ≠ move.toSlot := by
  rw [ready.planned.objUpdate, ready.found]
  simp

theorem ClassReady.birthMove (ready : ClassReady final birthObjects slots i value s names)
    (move : Move) : move ∈ s.birthUpdate ↔ names[move.toSlot]? = some ⟨true, move.fromSlot⟩ := by
  rw [ready.planned.birthUpdate, ready.found]
  simp

theorem ClassReady.slot_lt (ready : ClassReady final birthObjects slots i value s names)
    {slot : Nat} {index : ObjectIndex} (standing : names[slot]? = some index) :
    slot < s.objs.length := by
  rw [← ready.sameLength]
  exact (List.getElem?_eq_some_iff.mp standing).1

/-- No object moves to a slot that a later move reads. -/
theorem ClassReady.inPlace (ready : ClassReady final birthObjects slots i value s names) :
    copyWithin s.objUpdate s.objs = copyFrom s.objs s.objUpdate s.objs := by
  refine copyWithin_eq_copyFrom s.objs s.objUpdate s.objs (fun _ _ => rfl) ?_
  refine ready.planned.ordered.imp_of_mem fun {earlier later} _ member before => ?_
  have standing := ready.survivor later.toSlot later.fromSlot ((ready.objMove later).mp member).1
  omega

/-- The moves of the old objects, then those of the born ones, put every name's pointer into the
name's slot. -/
theorem ClassReady.filled (ready : ClassReady final birthObjects slots i value s names)
    {moved filled : List Ptr} (movedCopied : Copied s.objs s.objUpdate s.objs moved)
    (filledCopied : Copied birthObjects s.birthUpdate moved filled) :
    filled = names.map value := by
  refine List.ext_getElem? fun slot => ?_
  rw [List.getElem?_map]
  cases standing : names[slot]? with
  | none =>
    have sameLength := ready.sameLength
    rw [List.getElem?_eq_none_iff] at standing
    rw [List.getElem?_eq_none (by rw [filledCopied.length, movedCopied.length]; omega)]
    rfl
  | some index =>
    obtain ⟨isBorn, k⟩ := index
    cases isBorn with
    | true =>
      refine filledCopied.written slot _ ⟨⟨k, slot⟩, (ready.birthMove _).mpr standing, rfl⟩ ?_
      rintro move member rfl
      have same := (ready.birthMove move).mp member
      rw [standing] at same
      cases same
      exact ready.bornValue _ _ standing
    | false =>
      have unborn : ∀ move ∈ s.birthUpdate, move.toSlot ≠ slot := by
        rintro move member rfl
        have same := (ready.birthMove move).mp member
        rw [standing] at same
        cases same
      rw [filledCopied.untouched slot unborn]
      by_cases still : k = slot
      · subst still
        rw [movedCopied.untouched k]
        · exact ready.oldValue k (ready.survivor k k standing).2
        · rintro move member rfl
          obtain ⟨same, apart⟩ := (ready.objMove move).mp member
          rw [standing, Option.some.injEq, ObjectIndex.mk.injEq] at same
          exact apart same.2.symm
      · refine movedCopied.written slot _
          ⟨⟨k, slot⟩, (ready.objMove _).mpr ⟨standing, still⟩, rfl⟩ ?_
        rintro move member rfl
        have same := ((ready.objMove move).mp member).1
        rw [standing] at same
        cases same
        exact ready.oldValue _ (ready.survivor _ _ standing).2

end ClassReady

/-- The update lists of one class put every name's pointer into the name's slot, and copy the
pointers that the next round kills into their death slots. -/
theorem prepareState_prepared {i : Nat} {s : SizeState Weight} {names : List ObjectIndex}
    {value : ObjectIndex → Ptr} {birthObjects deathObjects : List Ptr}
    (ready : ClassReady final birthObjects deathObjects.length i value s names) :
    ∃ deathObjects', prepareState birthObjects s deathObjects =
        some ({ s with objs := names.map value }, deathObjects') ∧
      deathObjects'.length = deathObjects.length ∧
      (∀ (j old : Nat), final.deaths[j]? = some (i, ⟨false, old⟩) →
        deathObjects'[j]? = (names.map value)[old]?) ∧
      ∀ (j : Nat), (∀ old, final.deaths[j]? ≠ some (i, ⟨false, old⟩)) →
        deathObjects'[j]? = deathObjects[j]? := by
  obtain ⟨moved, movedRun, movedCopied⟩ := copyFrom_copied s.objs s.objUpdate s.objs
    (fun move member => (ready.survivor _ _ ((ready.objMove move).mp member).1).2)
    (fun move member => ready.slot_lt ((ready.objMove move).mp member).1)
  obtain ⟨filled, filledRun, filledCopied⟩ := copyFrom_copied birthObjects s.birthUpdate moved
    (fun move member =>
      (List.getElem?_eq_some_iff.mp (ready.bornValue _ _ ((ready.birthMove move).mp member))).1)
    (fun move member => by
      rw [movedCopied.length]
      exact ready.slot_lt ((ready.birthMove move).mp member))
  have filledEq := ready.filled movedCopied filledCopied
  subst filledEq
  obtain ⟨loaded, loadedRun, loadedCopied⟩ := copyFrom_copied _ s.deathUpdate deathObjects
    (fun move member => by
      rw [filledCopied.length, movedCopied.length]
      exact (ready.room _ _ ((ready.planned.deathUpdate move).mp member)).1)
    (fun move member => (ready.room _ _ ((ready.planned.deathUpdate move).mp member)).2)
  refine ⟨loaded, ?_, loadedCopied.length, ?_, ?_⟩
  · simp only [prepareState, ready.inPlace, movedRun, filledRun, loadedRun, Option.bind_eq_bind,
      Option.bind_some, Option.pure_def]
  · intro j old dead
    have inside : old < (names.map value).length := by
      rw [List.length_map, ready.sameLength]
      exact (ready.room j old dead).1
    rw [List.getElem?_eq_getElem inside]
    refine loadedCopied.written j _ ⟨⟨old, j⟩, (ready.planned.deathUpdate _).mpr dead, rfl⟩ ?_
    rintro move member rfl
    have same := (ready.planned.deathUpdate move).mp member
    rw [dead] at same
    cases same
    exact List.getElem?_eq_getElem inside
  · intro j spared
    refine loadedCopied.untouched j ?_
    rintro move member rfl
    exact spared _ ((ready.planned.deathUpdate move).mp member)

/-- The loop over the classes from class `offset` on. -/
theorem prepareStates_prepared {birthObjects deathObjects : List Ptr}
    {value : Nat → ObjectIndex → Ptr} {offset : Nat} {state : List (SizeState Weight)}
    (ready : ∀ (n : Nat) s, state[n]? = some s → ∃ names,
      ClassReady final birthObjects deathObjects.length (offset + n) (value (offset + n)) s
        names) :
    ∃ state' deathObjects',
      prepareStates birthObjects state deathObjects = some (state', deathObjects') ∧
      state'.length = state.length ∧ deathObjects'.length = deathObjects.length ∧
      (∀ (n : Nat) s names, state[n]? = some s → final.indices[offset + n]? = some names →
        state'[n]? = some { s with objs := names.map (value (offset + n)) }) ∧
      (∀ (j n old : Nat) names, n < state.length →
        final.deaths[j]? = some (offset + n, ⟨false, old⟩) →
        final.indices[offset + n]? = some names →
        deathObjects'[j]? = (names.map (value (offset + n)))[old]?) ∧
      ∀ (j : Nat), (∀ n old, n < state.length →
        final.deaths[j]? ≠ some (offset + n, ⟨false, old⟩)) →
        deathObjects'[j]? = deathObjects[j]? := by
  induction state generalizing offset deathObjects with
  | nil =>
    refine ⟨[], deathObjects, rfl, rfl, rfl, ?_, ?_, fun _ _ => rfl⟩
    · intro n s names found
      cases found
    · intro j n old names inside
      exact absurd inside (Nat.not_lt_zero n)
  | cons s state inductionHypothesis =>
    obtain ⟨names, classReady⟩ := ready 0 s rfl
    obtain ⟨middle, run, middleLength, loaded, spared⟩ := prepareState_prepared classReady
    have laterReady : ∀ (n : Nat) other, state[n]? = some other → ∃ names,
        ClassReady final birthObjects middle.length (offset + 1 + n) (value (offset + 1 + n))
          other names := by
      intro n other found
      rw [middleLength, show offset + 1 + n = offset + (n + 1) by omega]
      exact ready (n + 1) other found
    obtain ⟨state', deathObjects', runRest, length, slots, states, laterLoaded, laterSpared⟩ :=
      inductionHypothesis laterReady
    refine ⟨{ s with objs := names.map (value (offset + 0)) } :: state', deathObjects', ?_, ?_, ?_,
      ?_, ?_, ?_⟩
    · rw [prepareStates]
      show (prepareState birthObjects s deathObjects).bind _ = _
      rw [run]
      show (prepareStates birthObjects state middle).bind _ = _
      rw [runRest]
      rfl
    · rw [List.length_cons, List.length_cons, length]
    · rw [slots, middleLength]
    · intro n other otherNames found named
      cases n with
      | zero =>
        cases found
        have same := classReady.found.symm.trans named
        cases same
        rfl
      | succ n =>
        rw [show offset + (n + 1) = offset + 1 + n by omega] at named ⊢
        exact states n other otherNames found named
    · intro j n old otherNames inside dead named
      cases n with
      | zero =>
        rw [laterSpared j]
        · have same := classReady.found.symm.trans named
          cases same
          exact loaded j old dead
        · intro m other _ again
          rw [dead] at again
          simp only [Option.some.injEq, Prod.mk.injEq] at again
          omega
      | succ n =>
        rw [show offset + (n + 1) = offset + 1 + n by omega] at dead named ⊢
        exact laterLoaded j n old otherNames (Nat.lt_of_succ_lt_succ inside) dead named
    · intro j away
      rw [laterSpared j, spared j]
      · exact fun old => away 0 old (Nat.zero_lt_succ _)
      · intro n old inside
        rw [show offset + 1 + n = offset + (n + 1) by omega]
        exact away (n + 1) old (Nat.succ_lt_succ inside)

/-! ### A whole round -/

/-- Before a round the names of the start stand for the objects of the snapshot. -/
theorem ready_replaying (ready : Ready sizes live trace final data) :
    Replaying live final (symbolicStart (live.map List.length)) [] data
      { data with birthObjectIndex := 0, deathObjectIndex := 0 } live := by
  refine ⟨rfl, ready.births, ready.deaths, rfl, ?_, ?_, ?_, ?_, ?_⟩
  · rw [symbolicStart, List.length_map, List.length_map]
  · intro i objs found
    rw [symbolicStart, List.getElem?_map, List.getElem?_map, Option.map_map] at found
    obtain ⟨vector, vectorEq, rfl⟩ := Option.map_eq_some_iff.mp found
    rw [vectorEq, Function.comp_apply, List.map_map]
    refine congrArg some (List.ext_getElem? fun slot => ?_)
    rw [List.getElem?_map]
    by_cases inside : slot < vector.length
    · rw [List.getElem?_range inside]
      simp [pointerOf, List.getD_eq_getElem?_getD, vectorEq, List.getElem?_eq_getElem inside]
    · rw [List.getElem?_eq_none (Nat.le_of_not_lt inside),
        List.getElem?_eq_none (by simpa using inside)]
      rfl
  · intro j i k _ impossible
    exact absurd impossible (Nat.not_lt_zero k)
  · intro i slot k objs _ _ impossible
    exact absurd impossible (Nat.not_lt_zero k)
  · intro j i old dead
    obtain ⟨s, found, inside, loaded⟩ := ready.loaded j i old dead
    have vector : live[i]? = some s.objs := by
      rw [← ready.objs, List.getElem?_map, found]
      rfl
    show data.deathObjects[j]? = _
    rw [loaded, List.getElem?_eq_getElem inside]
    simp [pointerOf, List.getD_eq_getElem?_getD, vector, List.getElem?_eq_getElem inside]

/-- After the replay of a round, every class is ready for its updates. -/
theorem Replaying.classReady (ok : TraceOk sizes live trace final)
    (ready : Ready sizes live trace final start)
    (replaying : Replaying live final final born start data eagerLive) (i : Nat)
    (s : SizeState Weight) (found : start.state[i]? = some s) :
    ∃ names, ClassReady final data.birthObjects data.deathObjects.length i
      (pointerOf live born i) s names := by
  have vector : live[i]? = some s.objs := by
    rw [← ready.objs, List.getElem?_map, found]
    rfl
  have bound : i < final.indices.length := by
    rw [ok.placed.classes, List.length_map]
    exact (List.getElem?_eq_some_iff.mp vector).1
  have named := List.getElem?_eq_getElem bound
  have lengthEq : final.indices[i].length = s.objs.length := by
    have lengths := congrArg (·[i]?) ok.repaired
    simp only [List.getElem?_map, named, vector, Option.map_some, Option.some.injEq] at lengths
    exact lengths
  refine ⟨final.indices[i], ready.planned.classes i s found, named, lengthEq, ?_, ?_, ?_, ?_⟩
  · intro slot old standing
    obtain ⟨order, length, lengthFound, inside⟩ :=
      ok.placed.survivor i _ slot old named standing
    rw [List.getElem?_map, vector] at lengthFound
    cases lengthFound
    exact ⟨order, inside⟩
  · intro old inside
    simp [pointerOf, List.getD_eq_getElem?_getD, vector, List.getElem?_eq_getElem inside]
  · intro slot k standing
    have happened : k < born.length := by
      rw [replaying.bornLength]
      exact ok.placed.index_lt ok.small.2 (Symbolic.places_pos_of_live named standing)
    rw [replaying.kept i slot k _ named standing happened]
    simp [pointerOf, List.getD_eq_getElem?_getD, List.getElem?_eq_getElem happened]
  · intro j old dead
    obtain ⟨length, lengthFound, inside⟩ := ok.placed.dead i old (List.mem_of_getElem? dead)
    rw [List.getElem?_map, vector] at lengthFound
    cases lengthFound
    rw [replaying.deaths]
    exact ⟨inside, (List.getElem?_eq_some_iff.mp dead).1⟩

/-- A repaired trace leaves every class as long as before. -/
theorem Replaying.lengths (ok : TraceOk sizes live trace final)
    (replaying : Replaying live final final born start data eagerLive) :
    eagerLive.map List.length = live.map List.length := by
  rw [← ok.repaired]
  refine List.ext_getElem? fun i => ?_
  rw [List.getElem?_map, List.getElem?_map]
  cases named : final.indices[i]? with
  | none =>
    rw [List.getElem?_eq_none_iff] at named
    rw [List.getElem?_eq_none (by rw [replaying.eagerLength]; exact named)]
    rfl
  | some names =>
    rw [replaying.named i names named]
    simp

/-- The updates after a round put into each class what its names stand for, and load the deaths of
old objects again. -/
theorem Replaying.prepareStates_done (ok : TraceOk sizes live trace final)
    (ready : Ready sizes live trace final start)
    (replaying : Replaying live final final born start data eagerLive) :
    ∃ state deathObjects,
      prepareStates data.birthObjects start.state data.deathObjects = some (state, deathObjects) ∧
      state.length = start.state.length ∧ deathObjects.length = final.deaths.length ∧
      ∀ (i : Nat) s, start.state[i]? = some s → ∃ names, final.indices[i]? = some names ∧
        names.length = s.objs.length ∧
        state[i]? = some { s with objs := names.map (pointerOf live born i) } ∧
        ∀ j old : Nat, final.deaths[j]? = some (i, ⟨false, old⟩) →
          deathObjects[j]? = (names.map (pointerOf live born i))[old]? := by
  have classesReady : ∀ (n : Nat) s, start.state[n]? = some s → ∃ names,
      ClassReady final data.birthObjects data.deathObjects.length (0 + n)
        (pointerOf live born (0 + n)) s names := by
    intro n s found
    rw [Nat.zero_add]
    exact replaying.classReady ok ready n s found
  obtain ⟨state, deathObjects, prepared, length, slots, states, loaded, -⟩ :=
    prepareStates_prepared classesReady
  simp only [Nat.zero_add] at states loaded
  refine ⟨state, deathObjects, prepared, length, slots.trans replaying.deaths,
    fun i s found => ?_⟩
  obtain ⟨names, classReady⟩ := replaying.classReady ok ready i s found
  refine ⟨names, classReady.found, classReady.sameLength, states i s names found classReady.found,
    fun j old dead => ?_⟩
  exact loaded j i old names (List.getElem?_eq_some_iff.mp found).1 dead classReady.found

/-- The vectors after the updates are the eager ones. -/
theorem Replaying.prepared_objs (ok : TraceOk sizes live trace final)
    (ready : Ready sizes live trace final start)
    (replaying : Replaying live final final born start data eagerLive)
    {state : List (SizeState Weight)} (length : state.length = start.state.length)
    (states : ∀ (i : Nat) s, start.state[i]? = some s → ∃ names, final.indices[i]? = some names ∧
      state[i]? = some { s with objs := names.map (pointerOf live born i) }) :
    state.map (·.objs) = eagerLive := by
  have classCount : start.state.length = final.indices.length := by
    rw [ok.placed.classes, List.length_map, ← ready.objs, List.length_map]
  refine List.ext_getElem? fun i => ?_
  rw [List.getElem?_map]
  cases found : start.state[i]? with
  | none =>
    rw [List.getElem?_eq_none_iff] at found
    rw [List.getElem?_eq_none (by rw [length]; exact found),
      List.getElem?_eq_none (by rw [replaying.eagerLength, ← classCount]; exact found)]
    rfl
  | some s =>
    obtain ⟨names, named, prepared⟩ := states i s found
    rw [prepared, replaying.named i names named]
    rfl

/-- What a round leaves behind, whatever it has counted, is ready for the next round. -/
theorem Replaying.prepareNextReplay_ready (ok : TraceOk sizes live trace final)
    (ready : Ready sizes live trace final start)
    (replaying : Replaying live final final born start data eagerLive) (number bytes : Nat) :
    ∃ next, prepareNextReplay
        { data with totalNumAllocated := number, totalBytesAllocated := bytes } = some next ∧
      Ready sizes eagerLive trace final next := by
  obtain ⟨state, deathObjects, prepared, length, slots, states⟩ :=
    replaying.prepareStates_done ok ready
  have objs := replaying.prepared_objs ok ready length fun i s found =>
    (states i s found).imp fun _ known => ⟨known.1, known.2.2.1⟩
  have sameState : data.state = start.state := by rw [replaying.frame]
  refine ⟨{ data with
      totalNumAllocated := number
      totalBytesAllocated := bytes
      state := state
      deathObjects := deathObjects }, ?_, ⟨?_, ?_, ?_, ?_, ?_⟩, ?_, objs, replaying.births, slots⟩
  · rw [prepareNextReplay]
    show (prepareStates data.birthObjects data.state data.deathObjects).bind _ = _
    rw [sameState, prepared]
    rfl
  · show data.birthOrDeath = _
    rw [replaying.frame]
    exact ready.planned.birthOrDeath
  · show data.birthOrDeathActualSizes = _
    rw [replaying.frame]
    exact ready.planned.actualSizes
  · show ∀ j i k, _ → data.birthPointers[k]? = _
    rw [replaying.frame]
    exact ready.planned.killed
  · show ∀ i slot k objs, _ → _ → data.birthPointers[k]? = _
    rw [replaying.frame]
    exact ready.planned.kept
  · intro i s found
    have bound : i < start.state.length := by
      rw [← length]
      exact (List.getElem?_eq_some_iff.mp found).1
    have oldFound := List.getElem?_eq_getElem bound
    obtain ⟨names, -, -, same, -⟩ := states i _ oldFound
    cases same.symm.trans found
    have planned := ready.planned.classes i _ oldFound
    exact ⟨planned.objUpdate, planned.ordered, planned.birthUpdate, planned.deathUpdate⟩
  · intro j i old dead
    obtain ⟨s, found, inside, -⟩ := ready.loaded j i old dead
    obtain ⟨names, -, sameLength, same, loaded⟩ := states i s found
    refine ⟨_, same, ?_, loaded j old dead⟩
    simp only [List.length_map, sameLength]
    exact inside

/-- One round of replay and preparation makes the calls of one eager run of the trace, ends
with the eager vectors, and leaves the object ready for the next round. -/
theorem replayRound_eager (ok : TraceOk sizes live trace final)
    (ready : Ready sizes live trace final data) (alloc : Allocator) (calls : List Call) :
    ∃ replayed next live' calls', replayTrace alloc data calls = some (replayed, calls') ∧
      prepareNextReplay replayed = some next ∧
      eagerRun alloc sizes trace ⟨live, calls⟩ = some ⟨live', calls'⟩ ∧
      live'.map List.length = live.map List.length ∧
      Ready sizes live' trace final next := by
  obtain ⟨after, born, live', calls', loop, eager, replaying⟩ :=
    replayLoop_replaying alloc ok ready.planned (List.nil_append trace).symm rfl
      ok.run (ready_replaying ready) calls
  have traceLength : data.birthOrDeath.length = trace.length := by
    rw [ready.planned.birthOrDeath, List.length_map]
  obtain ⟨next, prepared, isReady⟩ := replaying.prepareNextReplay_ready ok ready
    ((after.totalNumAllocated + after.numAllocatedRecorded) % 2 ^ 64)
    ((after.totalBytesAllocated + after.bytesAllocatedRecorded) % 2 ^ 64)
  refine ⟨_, next, live', calls', ?_, prepared, eager, replaying.lengths ok, isReady⟩
  rw [replayTrace, traceLength]
  show (replayLoop alloc trace.length _ calls).bind _ = _
  rw [loop]
  rfl

end Fleetbench.Tcmalloc
