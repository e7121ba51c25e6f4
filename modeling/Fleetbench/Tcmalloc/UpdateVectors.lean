/-
This file says what `RestoreSnapshot` and `BuildUpdateVectors` leave behind: the
plan a replay follows. Every birth has one address, the slot of the death that
kills it or its own slot of `birth_objects_`; every class has the moves that
turn its vector before a round into its vector after it; and every death slot of
an old object knows where that object stands before the round.

Each loop of `BuildUpdateVectors` is followed with an invariant over the part of
its list that is done.
-/

import Fleetbench.Tcmalloc.Recording

namespace Fleetbench.Tcmalloc

open Library

variable {Weight : Type}

/-! ### The plan -/

/-- The update lists of one class, read off the names that stand in it after the recording
and off the names that died. -/
structure ClassPlanned (symbolic : Symbolic) (i : Nat) (s : SizeState Weight) : Prop where
  objUpdate : ∀ move, move ∈ s.objUpdate ↔
    (∃ objs, symbolic.indices[i]? = some objs ∧
      objs[move.toSlot]? = some ⟨false, move.fromSlot⟩) ∧ move.fromSlot ≠ move.toSlot
  ordered : s.objUpdate.Pairwise fun earlier later => earlier.toSlot < later.toSlot
  birthUpdate : ∀ move, move ∈ s.birthUpdate ↔
    ∃ objs, symbolic.indices[i]? = some objs ∧ objs[move.toSlot]? = some ⟨true, move.fromSlot⟩
  deathUpdate : ∀ move, move ∈ s.deathUpdate ↔
    symbolic.deaths[move.toSlot]? = some (i, ⟨false, move.fromSlot⟩)

/-- The members a replay reads but never writes. -/
structure Planned (sizes : List Nat) (trace : List RecordEvent) (symbolic : Symbolic)
    (data : EmpiricalData Weight) : Prop where
  birthOrDeath : data.birthOrDeath = trace.map RecordEvent.isBirth
  actualSizes : data.birthOrDeathActualSizes = trace.map fun event => sizes.getD event.class 0
  killed : ∀ (j i k : Nat), symbolic.deaths[j]? = some (i, ⟨true, k⟩) →
    data.birthPointers[k]? = some (.deathObject j)
  kept : ∀ (i slot k : Nat) objs, symbolic.indices[i]? = some objs →
    objs[slot]? = some ⟨true, k⟩ → data.birthPointers[k]? = some (.birthObject k)
  classes : ∀ (i : Nat) s, data.state[i]? = some s → ClassPlanned symbolic i s

/-- Every death slot of an old object holds that object. -/
def Loaded (symbolic : Symbolic) (data : EmpiricalData Weight) : Prop :=
  ∀ (j i old : Nat), symbolic.deaths[j]? = some (i, ⟨false, old⟩) →
    ∃ s, data.state[i]? = some s ∧ old < s.objs.length ∧
      data.deathObjects[j]? = s.objs[old]?

/-! ### Restoring the snapshot -/

theorem restoreObjs_eq (snapshots state : List (SizeState Weight))
    (sameLength : snapshots.length = state.length) :
    ∃ restored, restoreObjs snapshots state = some restored ∧
      restored.map (·.objs) = snapshots.map (·.objs) ∧
      restored.length = state.length ∧
      ∀ (i : Nat) s, restored[i]? = some s → ∃ old, state[i]? = some old ∧
        s = { old with objs := s.objs } := by
  induction snapshots generalizing state with
  | nil =>
    cases state with
    | nil => exact ⟨[], rfl, rfl, rfl, fun i s found => by cases found⟩
    | cons _ _ => cases sameLength
  | cons snapshot snapshots inductionHypothesis =>
    cases state with
    | nil => cases sameLength
    | cons s state =>
      obtain ⟨restored, run, objs, length, kept⟩ := inductionHypothesis state
        (Nat.succ.inj sameLength)
      refine ⟨{ s with objs := snapshot.objs } :: restored, ?_, ?_, ?_, ?_⟩
      · rw [restoreObjs, run]
        rfl
      · rw [List.map_cons, List.map_cons, objs]
      · rw [List.length_cons, List.length_cons, length]
      · intro i other found
        cases i with
        | zero =>
          cases found
          exact ⟨s, rfl, rfl⟩
        | succ i => exact kept i other found

/-! ### The first loop: the deaths -/

/-- The classes of the deaths in a trace, in order. -/
def deathClasses (trace : List RecordEvent) : List Nat :=
  (trace.filter fun event => !event.isBirth).map RecordEvent.class

theorem symbolicRun_deathClasses {trace : List RecordEvent} {symbolic next : Symbolic}
    (run : symbolicRun trace symbolic = some next) :
    next.deaths.map Prod.fst = symbolic.deaths.map Prod.fst ++ deathClasses trace := by
  induction trace generalizing symbolic with
  | nil =>
    cases run
    exact (List.append_nil _).symm
  | cons event rest inductionHypothesis =>
    obtain ⟨middle, step, run⟩ := Option.bind_eq_some_iff.mp run
    rw [inductionHypothesis run]
    obtain ⟨i, objs, rfl, _, rfl⟩ | ⟨i, toFree, objs, index, rfl, _, _, rfl⟩ :=
      symbolicStep_cases step
    · rfl
    · rw [List.map_append, List.append_assoc]
      rfl

/-- The loop skips births, so only the classes of the deaths matter. -/
theorem buildDeathUpdates_births (trace : List RecordEvent) (deathIndex : Nat)
    (data : EmpiricalData Weight) :
    buildDeathUpdates (trace.map fun event => (event.isBirth, event.class % 2 ^ 16)) deathIndex
        data =
      buildDeathUpdates ((deathClasses trace).map fun i => (false, i % 2 ^ 16)) deathIndex
        data := by
  induction trace generalizing deathIndex data with
  | nil => rfl
  | cons event rest inductionHypothesis =>
    cases event with
    | birth i => exact inductionHypothesis deathIndex data
    | death i toFree =>
      show buildDeathUpdates ((false, i % 2 ^ 16) :: _) deathIndex data =
        buildDeathUpdates ((false, i % 2 ^ 16) :: _) deathIndex data
      simp only [buildDeathUpdates, inductionHypothesis]
      rfl

/-- The state of the first loop after the deaths `done`, started on `start`. -/
structure DeathsDone (start data : EmpiricalData Weight) (done : List (Nat × ObjectIndex)) :
    Prop where
  frame : data = { start with
    state := data.state, deathObjects := data.deathObjects, birthPointers := data.birthPointers }
  pointers : data.birthPointers.length = start.birthPointers.length
  objects : data.deathObjects.length = start.deathObjects.length
  killed : ∀ (j i k : Nat), done[j]? = some (i, ⟨true, k⟩) →
    data.birthPointers[k]? = some (.deathObject j)
  loaded : ∀ (j i old : Nat), done[j]? = some (i, ⟨false, old⟩) →
    ∃ s, start.state[i]? = some s ∧ old < s.objs.length ∧ data.deathObjects[j]? = s.objs[old]?
  classes : data.state.length = start.state.length ∧
    ∀ (i : Nat) s, data.state[i]? = some s → ∃ old, start.state[i]? = some old ∧
      s = { old with deathUpdate := s.deathUpdate } ∧
      ∀ move, move ∈ s.deathUpdate ↔ done[move.toSlot]? = some (i, ⟨false, move.fromSlot⟩)

theorem deathsDone_nil (start : EmpiricalData Weight)
    (noUpdates : ∀ s ∈ start.state, s.deathUpdate = []) : DeathsDone start start [] := by
  refine ⟨rfl, rfl, rfl, ?_, ?_, rfl, ?_⟩
  · intro j i k found
    cases found
  · intro j i old found
    cases found
  · intro i s found
    refine ⟨s, found, rfl, fun move => ?_⟩
    rw [noUpdates s (List.mem_of_getElem? found)]
    simp

variable {start data : EmpiricalData Weight} {done : List (Nat × ObjectIndex)}

/-- The loop body on the death of an old object. -/
theorem deathsDone_old (progress : DeathsDone start data done) {i old : Nat}
    {s current : SizeState Weight} (found : start.state[i]? = some s)
    (currentEq : data.state[i]? = some current) (inside : old < s.objs.length)
    (room : done.length < data.deathObjects.length) :
    DeathsDone start { data with
      state := data.state.set i
        { current with deathUpdate := current.deathUpdate ++ [⟨old, done.length⟩] }
      deathObjects := data.deathObjects.set done.length s.objs[old] }
      (done ++ [(i, ⟨false, old⟩)]) := by
  refine ⟨?_, progress.pointers, ?_, ?_, ?_, ?_, ?_⟩
  · rw [progress.frame]
  · exact (List.length_set ..).trans progress.objects
  · intro j other k standing
    rcases getElem?_concat_cases standing with earlier | ⟨_, new⟩
    · exact progress.killed j other k earlier
    · cases new
  · intro j other oldIndex standing
    rcases getElem?_concat_cases standing with earlier | ⟨rfl, new⟩
    · obtain ⟨otherState, otherFound, otherInside, loaded⟩ :=
        progress.loaded j other oldIndex earlier
      refine ⟨otherState, otherFound, otherInside, ?_⟩
      have different : done.length ≠ j := by
        have bound := (List.getElem?_eq_some_iff.mp earlier).1
        omega
      rw [← loaded]
      exact List.getElem?_set_ne different
    · simp only [Prod.mk.injEq, ObjectIndex.mk.injEq, true_and] at new
      obtain ⟨rfl, rfl⟩ := new
      refine ⟨s, found, inside, ?_⟩
      rw [List.getElem?_eq_getElem inside]
      exact List.getElem?_set_self room
  · exact (List.length_set ..).trans progress.classes.1
  · intro other otherState otherFound
    rcases getElem?_set_cases otherFound with ⟨rfl, rfl⟩ | ⟨different, otherOld⟩
    · obtain ⟨base, baseEq, same, moves⟩ := progress.classes.2 other current currentEq
      refine ⟨base, baseEq, by rw [same], fun move => ?_⟩
      rw [List.mem_append, List.mem_singleton, moves move]
      constructor
      · rintro (earlier | rfl)
        · rw [List.getElem?_append_left (List.getElem?_eq_some_iff.mp earlier).1]
          exact earlier
        · exact List.getElem?_concat_length
      · intro standing
        rcases getElem?_concat_cases standing with earlier | ⟨toEq, new⟩
        · exact Or.inl earlier
        · simp only [Prod.mk.injEq, ObjectIndex.mk.injEq, true_and] at new
          obtain ⟨fromSlot, toSlot⟩ := move
          simp only at toEq new
          rw [toEq, new]
          exact Or.inr rfl
    · obtain ⟨base, baseEq, same, moves⟩ := progress.classes.2 other otherState otherOld
      refine ⟨base, baseEq, same, fun move => ?_⟩
      rw [moves move]
      constructor
      · intro earlier
        rw [List.getElem?_append_left (List.getElem?_eq_some_iff.mp earlier).1]
        exact earlier
      · intro standing
        rcases getElem?_concat_cases standing with earlier | ⟨_, new⟩
        · exact earlier
        · simp only [Prod.mk.injEq] at new
          exact absurd new.1 different

/-- The loop body on the death of an object born in the same round. -/
theorem deathsDone_born (progress : DeathsDone start data done) {i k : Nat}
    (inside : k < data.birthPointers.length) (fresh : ∀ other, (other, ⟨true, k⟩) ∉ done) :
    DeathsDone start { data with
      birthPointers := data.birthPointers.set k (.deathObject done.length) }
      (done ++ [(i, ⟨true, k⟩)]) := by
  refine ⟨?_, ?_, progress.objects, ?_, ?_, progress.classes.1, ?_⟩
  · rw [progress.frame]
  · exact (List.length_set ..).trans progress.pointers
  · intro j other birth standing
    rcases getElem?_concat_cases standing with earlier | ⟨rfl, new⟩
    · have different : k ≠ birth := by
        rintro rfl
        exact fresh other (List.mem_of_getElem? earlier)
      rw [← progress.killed j other birth earlier]
      exact List.getElem?_set_ne different
    · simp only [Prod.mk.injEq, ObjectIndex.mk.injEq, true_and] at new
      rw [new.2]
      exact List.getElem?_set_self inside
  · intro j other old standing
    rcases getElem?_concat_cases standing with earlier | ⟨_, new⟩
    · exact progress.loaded j other old earlier
    · simp at new
  · intro other otherState otherFound
    obtain ⟨base, baseEq, same, moves⟩ := progress.classes.2 other otherState otherFound
    refine ⟨base, baseEq, same, fun move => ?_⟩
    rw [moves move]
    constructor
    · intro earlier
      rw [List.getElem?_append_left (List.getElem?_eq_some_iff.mp earlier).1]
      exact earlier
    · intro standing
      rcases getElem?_concat_cases standing with earlier | ⟨_, new⟩
      · exact earlier
      · simp at new

/-- What the first loop needs of the list of deaths. -/
structure DeathsReadable (start : EmpiricalData Weight) (deaths : List (Nat × ObjectIndex)) :
    Prop where
  names : start.deathObjIndices = deaths.map Prod.snd
  narrow : ∀ death ∈ deaths, death.1 < 2 ^ 16
  old : ∀ i old, (i, ⟨false, old⟩) ∈ deaths →
    ∃ s, start.state[i]? = some s ∧ old < s.objs.length
  born : ∀ i k, (i, ⟨true, k⟩) ∈ deaths → k < start.birthPointers.length
  once : ∀ k, (deaths.map Prod.snd).count ⟨true, k⟩ ≤ 1
  room : start.deathObjects.length = deaths.length

theorem buildDeathUpdates_done {deaths rest : List (Nat × ObjectIndex)}
    (readable : DeathsReadable start deaths) (split : deaths = done ++ rest)
    (progress : DeathsDone start data done) :
    ∃ next, buildDeathUpdates (rest.map fun death => (false, death.1 % 2 ^ 16)) done.length
        data = some next ∧ DeathsDone start next deaths := by
  induction rest generalizing data done with
  | nil =>
    rw [List.append_nil] at split
    exact ⟨data, rfl, split ▸ progress⟩
  | cons death rest inductionHypothesis =>
    have shifted : deaths = (done ++ [death]) ++ rest := by
      rw [split, List.append_assoc]
      rfl
    have member : death ∈ deaths := by
      rw [split]
      exact List.mem_append_right _ List.mem_cons_self
    have named : data.deathObjIndices[done.length]? = some death.2 := by
      rw [progress.frame]
      show start.deathObjIndices[done.length]? = some death.2
      rw [readable.names, split, List.map_append, List.getElem?_append_right (by simp)]
      simp
    have narrow : death.1 % 2 ^ 16 = death.1 := Nat.mod_eq_of_lt (readable.narrow death member)
    have nextLength : (done ++ [death]).length = done.length + 1 := by simp
    obtain ⟨i, ⟨isBorn, index⟩⟩ := death
    rw [List.map_cons, buildDeathUpdates, named]
    cases isBorn with
    | false =>
      obtain ⟨s, found, inside⟩ := readable.old i index member
      obtain ⟨current, currentEq⟩ : ∃ current, data.state[i]? = some current := by
        have bound := (List.getElem?_eq_some_iff.mp found).1
        rw [← progress.classes.1] at bound
        exact ⟨data.state[i], List.getElem?_eq_getElem bound⟩
      have sameObjs : current.objs = s.objs := by
        obtain ⟨base, baseEq, same, -⟩ := progress.classes.2 i current currentEq
        rw [found] at baseEq
        cases baseEq
        rw [same]
      have room : done.length < data.deathObjects.length := by
        rw [progress.objects, readable.room, split, List.length_append, List.length_cons]
        omega
      obtain ⟨next, run, final⟩ := inductionHypothesis shifted
        (deathsDone_old progress found currentEq inside room)
      refine ⟨next, ?_, final⟩
      rw [nextLength] at run
      have read : current.objs[index]? = some s.objs[index] := by
        rw [sameObjs, List.getElem?_eq_getElem inside]
      simp only [narrow, currentEq, Option.bind_eq_bind, Option.bind_some, if_true, read,
        writeAt_of_lt room]
      exact run
    | true =>
      have inside : index < data.birthPointers.length := by
        rw [progress.pointers]
        exact readable.born i index member
      have fresh : ∀ other, (other, (⟨true, index⟩ : ObjectIndex)) ∉ done := by
        intro other earlier
        have twice := readable.once index
        have first : 0 < (done.map Prod.snd).count ⟨true, index⟩ :=
          List.count_pos_iff.mpr (List.mem_map.mpr ⟨_, earlier, rfl⟩)
        rw [split, List.map_append, List.map_cons, List.count_append, List.count_cons_self]
          at twice
        omega
      obtain ⟨next, run, final⟩ := inductionHypothesis shifted
        (deathsDone_born progress inside fresh)
      refine ⟨next, ?_, final⟩
      rw [nextLength] at run
      simp only [Option.bind_eq_bind, Option.bind_some, Bool.true_eq_false, if_false,
        writeAt_of_lt inside]
      exact run

/-! ### The second loop: the objects that stay -/

/-- The state of the inner loop after the names `done` of one class, started on the class
`start` with the addresses `pointers`. -/
structure ObjectsDone (start s : SizeState Weight) (pointers current : List Slot)
    (done : List ObjectIndex) : Prop where
  frame : s = { start with objUpdate := s.objUpdate, birthUpdate := s.birthUpdate }
  objUpdate : ∀ move, move ∈ s.objUpdate ↔
    done[move.toSlot]? = some ⟨false, move.fromSlot⟩ ∧ move.fromSlot ≠ move.toSlot
  ordered : s.objUpdate.Pairwise fun earlier later => earlier.toSlot < later.toSlot
  birthUpdate : ∀ move, move ∈ s.birthUpdate ↔ done[move.toSlot]? = some ⟨true, move.fromSlot⟩
  length : current.length = pointers.length
  kept : ∀ (slot k : Nat), done[slot]? = some ⟨true, k⟩ → current[k]? = some (.birthObject k)
  others : ∀ k, ⟨true, k⟩ ∉ done → current[k]? = pointers[k]?

variable {first s : SizeState Weight} {pointers current : List Slot} {names : List ObjectIndex}

/-- A move is in a list extended by the move of the last name exactly if it belongs to one of
the names. -/
theorem mem_concat_move_iff {moves : List Move} {isBorn : Bool} {index : Nat}
    (before : ∀ move : Move, move ∈ moves ↔
      names[move.toSlot]? = some ⟨isBorn, move.fromSlot⟩) (move : Move) :
    move ∈ moves ++ [⟨index, names.length⟩] ↔
      (names ++ [⟨isBorn, index⟩])[move.toSlot]? = some ⟨isBorn, move.fromSlot⟩ := by
  rw [List.mem_append, List.mem_singleton, before]
  constructor
  · rintro (earlier | rfl)
    · rw [List.getElem?_append_left (List.getElem?_eq_some_iff.mp earlier).1]
      exact earlier
    · exact List.getElem?_concat_length
  · intro standing
    rcases getElem?_concat_cases standing with earlier | ⟨toEq, new⟩
    · exact Or.inl earlier
    · obtain ⟨fromSlot, toSlot⟩ := move
      simp only [ObjectIndex.mk.injEq, true_and] at toEq new
      rw [toEq, new]
      exact Or.inr rfl

/-- A name of another kind adds no move. -/
theorem getElem?_concat_iff_of_ne {last wanted : ObjectIndex} (different : wanted ≠ last)
    (slot : Nat) : (names ++ [last])[slot]? = some wanted ↔ names[slot]? = some wanted := by
  constructor
  · intro standing
    rcases getElem?_concat_cases standing with earlier | ⟨_, new⟩
    · exact earlier
    · exact absurd new different
  · intro earlier
    rw [List.getElem?_append_left (List.getElem?_eq_some_iff.mp earlier).1]
    exact earlier

theorem objectsDone_moved (progress : ObjectsDone first s pointers current names) {index : Nat}
    (moved : index ≠ names.length) :
    ObjectsDone first { s with objUpdate := s.objUpdate ++ [⟨index, names.length⟩] } pointers
      current (names ++ [⟨false, index⟩]) := by
  refine ⟨?_, ?_, ?_, ?_, progress.length, ?_, ?_⟩
  · rw [progress.frame]
  · intro move
    rw [List.mem_append, List.mem_singleton, progress.objUpdate]
    constructor
    · rintro (⟨earlier, apart⟩ | rfl)
      · rw [List.getElem?_append_left (List.getElem?_eq_some_iff.mp earlier).1]
        exact ⟨earlier, apart⟩
      · exact ⟨List.getElem?_concat_length, moved⟩
    · rintro ⟨standing, apart⟩
      rcases getElem?_concat_cases standing with earlier | ⟨toEq, new⟩
      · exact Or.inl ⟨earlier, apart⟩
      · obtain ⟨fromSlot, toSlot⟩ := move
        simp only [ObjectIndex.mk.injEq, true_and] at toEq new
        rw [toEq, new]
        exact Or.inr rfl
  · refine List.pairwise_append.mpr ⟨progress.ordered, List.pairwise_singleton _ _, ?_⟩
    intro earlier member later last
    rw [List.mem_singleton.mp last]
    exact (List.getElem?_eq_some_iff.mp ((progress.objUpdate earlier).mp member).1).1
  · intro move
    rw [progress.birthUpdate, getElem?_concat_iff_of_ne (by simp)]
  · intro slot k standing
    exact progress.kept slot k ((getElem?_concat_iff_of_ne (by simp) slot).mp standing)
  · intro k absent
    exact progress.others k fun member => absent (List.mem_append_left _ member)

theorem objectsDone_still (progress : ObjectsDone first s pointers current names) :
    ObjectsDone first s pointers current (names ++ [⟨false, names.length⟩]) := by
  refine ⟨progress.frame, ?_, progress.ordered, ?_, progress.length, ?_, ?_⟩
  · intro move
    rw [progress.objUpdate]
    constructor
    · rintro ⟨earlier, apart⟩
      rw [List.getElem?_append_left (List.getElem?_eq_some_iff.mp earlier).1]
      exact ⟨earlier, apart⟩
    · rintro ⟨standing, apart⟩
      rcases getElem?_concat_cases standing with earlier | ⟨toEq, new⟩
      · exact ⟨earlier, apart⟩
      · simp only [ObjectIndex.mk.injEq, true_and] at new
        exact absurd (new.trans toEq.symm) apart
  · intro move
    rw [progress.birthUpdate, getElem?_concat_iff_of_ne (by simp)]
  · intro slot k standing
    exact progress.kept slot k ((getElem?_concat_iff_of_ne (by simp) slot).mp standing)
  · intro k absent
    exact progress.others k fun member => absent (List.mem_append_left _ member)

theorem objectsDone_born (progress : ObjectsDone first s pointers current names) {k : Nat}
    (inside : k < current.length) :
    ObjectsDone first { s with birthUpdate := s.birthUpdate ++ [⟨k, names.length⟩] } pointers
      (current.set k (.birthObject k)) (names ++ [⟨true, k⟩]) := by
  refine ⟨?_, ?_, progress.ordered, mem_concat_move_iff progress.birthUpdate, ?_, ?_, ?_⟩
  · rw [progress.frame]
  · intro move
    rw [progress.objUpdate, getElem?_concat_iff_of_ne (by simp)]
  · exact (List.length_set ..).trans progress.length
  · intro slot other standing
    by_cases same : k = other
    · subst same
      exact List.getElem?_set_self inside
    · rw [List.getElem?_set_ne same]
      rcases getElem?_concat_cases standing with earlier | ⟨_, new⟩
      · exact progress.kept slot other earlier
      · cases new
        exact absurd rfl same
  · intro other absent
    have different : k ≠ other := by
      rintro rfl
      exact absent (List.mem_append_right _ List.mem_cons_self)
    rw [List.getElem?_set_ne different]
    exact progress.others other fun member => absent (List.mem_append_left _ member)

/-- What a run of the inner loop leaves behind. -/
theorem buildClassUpdates_objectsDone {rest : List ObjectIndex} {final : SizeState Weight}
    {slots : List Slot} (progress : ObjectsDone first s pointers current names)
    (run : buildClassUpdates rest names.length s current = some (final, slots)) :
    ObjectsDone first final pointers slots (names ++ rest) := by
  induction rest generalizing s current names with
  | nil =>
    cases run
    rw [List.append_nil]
    exact progress
  | cons name rest inductionHypothesis =>
    have nextLength : (names ++ [name]).length = names.length + 1 := by simp
    obtain ⟨isBorn, index⟩ := name
    rw [List.append_cons]
    cases isBorn with
    | false =>
      rw [buildClassUpdates, if_pos rfl, ← nextLength] at run
      by_cases moved : index = names.length
      · subst moved
        rw [if_neg fun apart => apart rfl] at run
        exact inductionHypothesis (objectsDone_still progress) run
      · rw [if_pos moved] at run
        exact inductionHypothesis (objectsDone_moved progress moved) run
    | true =>
      rw [buildClassUpdates, if_neg (by simp), ← nextLength] at run
      obtain ⟨birthPointers, write, run⟩ := Option.bind_eq_some_iff.mp run
      rw [writeAt] at write
      split at write
      · rename_i inside
        cases write
        exact inductionHypothesis (objectsDone_born progress inside) run
      · cases write

/-- The inner loop ends if every birth it meets has an address. -/
theorem buildClassUpdates_total (rest : List ObjectIndex) (i : Nat) (s : SizeState Weight)
    (current : List Slot) (addressed : ∀ k, ⟨true, k⟩ ∈ rest → k < current.length) :
    ∃ final slots, buildClassUpdates rest i s current = some (final, slots) := by
  induction rest generalizing i s current with
  | nil => exact ⟨s, current, rfl⟩
  | cons name rest inductionHypothesis =>
    have later : ∀ k, ⟨true, k⟩ ∈ rest → k < current.length := fun k member =>
      addressed k (List.mem_cons_of_mem _ member)
    obtain ⟨isBorn, index⟩ := name
    cases isBorn with
    | false =>
      rw [buildClassUpdates, if_pos rfl]
      split
      · exact inductionHypothesis _ _ _ later
      · exact inductionHypothesis _ _ _ later
    | true =>
      rw [buildClassUpdates, if_neg (by simp), writeAt_of_lt (addressed index List.mem_cons_self)]
      refine inductionHypothesis _ _ _ fun k member => ?_
      rw [List.length_set]
      exact later k member

theorem buildClassUpdates_done (rest : List ObjectIndex)
    (progress : ObjectsDone first s pointers current names)
    (addressed : ∀ k, ⟨true, k⟩ ∈ rest → k < pointers.length) :
    ∃ final slots, buildClassUpdates rest names.length s current = some (final, slots) ∧
      ObjectsDone first final pointers slots (names ++ rest) := by
  obtain ⟨final, slots, run⟩ := buildClassUpdates_total rest names.length s current
    fun k member => progress.length ▸ addressed k member
  exact ⟨final, slots, run, buildClassUpdates_objectsDone progress run⟩

theorem objectsDone_nil (start : SizeState Weight) (pointers : List Slot)
    (noUpdates : start.objUpdate = [] ∧ start.birthUpdate = []) :
    ObjectsDone start start pointers pointers [] := by
  refine ⟨rfl, ?_, ?_, ?_, rfl, ?_, fun _ _ => rfl⟩
  · intro move
    rw [noUpdates.1]
    simp
  · rw [noUpdates.1]
    exact List.Pairwise.nil
  · intro move
    rw [noUpdates.2]
    simp
  · intro slot k standing
    cases standing

/-- The second loop gives each class the moves of its own names. -/
theorem buildObjectUpdates_classes {state after : List (SizeState Weight)}
    {pointers slots : List Slot} (run : buildObjectUpdates state pointers = some (after, slots))
    (noUpdates : ∀ s ∈ state, s.objUpdate = [] ∧ s.birthUpdate = []) :
    slots.length = pointers.length ∧ after.length = state.length ∧
      ∀ (i : Nat) s, after[i]? = some s → ∃ old before current, state[i]? = some old ∧
        ObjectsDone old s before current old.objsIndicesAfterRecording := by
  induction state generalizing pointers after slots with
  | nil =>
    cases run
    refine ⟨rfl, rfl, fun i s found => ?_⟩
    cases found
  | cons s state inductionHypothesis =>
    obtain ⟨⟨first, middle⟩, firstRun, run⟩ := Option.bind_eq_some_iff.mp run
    obtain ⟨⟨others, last⟩, othersRun, run⟩ := Option.bind_eq_some_iff.mp run
    cases run
    have done := buildClassUpdates_objectsDone
      (objectsDone_nil s pointers (noUpdates s List.mem_cons_self)) firstRun
    obtain ⟨slotsLength, length, classes⟩ := inductionHypothesis othersRun fun other member =>
      noUpdates other (List.mem_cons_of_mem _ member)
    refine ⟨slotsLength.trans done.length, congrArg Nat.succ length, fun i other found => ?_⟩
    cases i with
    | zero =>
      cases found
      exact ⟨s, pointers, middle, rfl, done⟩
    | succ i => exact classes i other found

/-- Only the births that stand in some class change their address, to their own slot. -/
theorem buildObjectUpdates_slots {state after : List (SizeState Weight)}
    {pointers slots : List Slot} (run : buildObjectUpdates state pointers = some (after, slots))
    (noUpdates : ∀ s ∈ state, s.objUpdate = [] ∧ s.birthUpdate = []) :
    (∀ s ∈ state, ∀ k, ⟨true, k⟩ ∈ s.objsIndicesAfterRecording →
      slots[k]? = some (.birthObject k)) ∧
    ∀ k, (∀ s ∈ state, ⟨true, k⟩ ∉ s.objsIndicesAfterRecording) → slots[k]? = pointers[k]? := by
  induction state generalizing pointers after slots with
  | nil =>
    cases run
    refine ⟨fun s member => ?_, fun _ _ => rfl⟩
    cases member
  | cons s state inductionHypothesis =>
    obtain ⟨⟨first, middle⟩, firstRun, run⟩ := Option.bind_eq_some_iff.mp run
    obtain ⟨⟨rest, last⟩, othersRun, run⟩ := Option.bind_eq_some_iff.mp run
    cases run
    have done := buildClassUpdates_objectsDone
      (objectsDone_nil s pointers (noUpdates s List.mem_cons_self)) firstRun
    rw [List.nil_append] at done
    obtain ⟨kept, others⟩ := inductionHypothesis othersRun fun other member =>
      noUpdates other (List.mem_cons_of_mem _ member)
    refine ⟨fun other member k standing => ?_, fun k absent => ?_⟩
    · by_cases later : ∃ s ∈ state, ⟨true, k⟩ ∈ s.objsIndicesAfterRecording
      · obtain ⟨laterState, laterMember, laterStanding⟩ := later
        exact kept laterState laterMember k laterStanding
      · rw [others k fun t tMember tStanding => later ⟨t, tMember, tStanding⟩]
        rcases List.mem_cons.mp member with rfl | inRest
        · obtain ⟨slot, slotEq⟩ := List.mem_iff_getElem?.mp standing
          exact done.kept slot k slotEq
        · exact absurd ⟨other, inRest, standing⟩ later
    · rw [others k fun other member => absent other (List.mem_cons_of_mem _ member),
        done.others k (absent s List.mem_cons_self)]

/-- The second loop ends if every birth that stands in a class has an address. -/
theorem buildObjectUpdates_total (state : List (SizeState Weight)) (pointers : List Slot)
    (noUpdates : ∀ s ∈ state, s.objUpdate = [] ∧ s.birthUpdate = [])
    (addressed : ∀ s ∈ state, ∀ k, ⟨true, k⟩ ∈ s.objsIndicesAfterRecording →
      k < pointers.length) :
    ∃ final slots, buildObjectUpdates state pointers = some (final, slots) := by
  induction state generalizing pointers with
  | nil => exact ⟨[], pointers, rfl⟩
  | cons s state inductionHypothesis =>
    obtain ⟨built, middle, run, done⟩ := buildClassUpdates_done s.objsIndicesAfterRecording
      (objectsDone_nil s pointers (noUpdates s List.mem_cons_self))
      (addressed s List.mem_cons_self)
    obtain ⟨final, slots, othersRun⟩ := inductionHypothesis middle
      (fun other member => noUpdates other (List.mem_cons_of_mem _ member))
      (fun other member k standing => by
        rw [done.length]
        exact addressed other (List.mem_cons_of_mem _ member) k standing)
    rw [List.length_nil] at run
    refine ⟨built :: final, slots, ?_⟩
    show (buildClassUpdates s.objsIndicesAfterRecording 0 s pointers).bind _ = _
    rw [run]
    show (buildObjectUpdates state middle).bind _ = _
    rw [othersRun]
    rfl

/-- The second loop over all classes: each class gets the moves of its own names, and only the
births that stand in some class change their address. -/
theorem buildObjectUpdates_done (state : List (SizeState Weight)) (pointers : List Slot)
    (noUpdates : ∀ s ∈ state, s.objUpdate = [] ∧ s.birthUpdate = [])
    (addressed : ∀ s ∈ state, ∀ k, ⟨true, k⟩ ∈ s.objsIndicesAfterRecording →
      k < pointers.length) :
    ∃ final slots, buildObjectUpdates state pointers = some (final, slots) ∧
      final.length = state.length ∧
      (∀ (i : Nat) s, final[i]? = some s → ∃ old before current, state[i]? = some old ∧
        ObjectsDone old s before current old.objsIndicesAfterRecording) ∧
      (∀ s ∈ state, ∀ k, ⟨true, k⟩ ∈ s.objsIndicesAfterRecording →
        slots[k]? = some (.birthObject k)) ∧
      ∀ k, (∀ s ∈ state, ⟨true, k⟩ ∉ s.objsIndicesAfterRecording) →
        slots[k]? = pointers[k]? := by
  obtain ⟨final, slots, run⟩ := buildObjectUpdates_total state pointers noUpdates addressed
  obtain ⟨-, length, classes⟩ := buildObjectUpdates_classes run noUpdates
  obtain ⟨kept, others⟩ := buildObjectUpdates_slots run noUpdates
  exact ⟨final, slots, run, length, classes, kept, others⟩

/-! ### The plan of a recorded and repaired trace -/

theorem resize_nil {Value : Type} (size : Nat) (filler : Value) :
    resize [] size filler = List.replicate size filler := by
  simp [resize]

/-- Births that stand in some class and births that died are different births. -/
theorem Placed.notMem_deaths {lengths : List Nat} {symbolic : Symbolic}
    (placed : Placed lengths symbolic) (small : symbolic.births ≤ 2 ^ 32) {k : Nat}
    {objs : List ObjectIndex} (inClass : objs ∈ symbolic.indices)
    (standing : ⟨true, k⟩ ∈ objs) : ∀ (j i : Nat), symbolic.deaths[j]? ≠ some (i, ⟨true, k⟩) := by
  intro j i dead
  have once := placed.once small k
  have live : 0 < symbolic.indices.flatten.count ⟨true, k⟩ :=
    List.count_pos_iff.mpr (List.mem_flatten.mpr ⟨objs, inClass, standing⟩)
  have killed : 0 < (symbolic.deaths.map Prod.snd).count ⟨true, k⟩ :=
    List.count_pos_iff.mpr (List.mem_map.mpr ⟨_, List.mem_of_getElem? dead, rfl⟩)
  rw [Symbolic.places] at once
  split at once <;> omega

/-- The state between `RestoreSnapshot` and `BuildUpdateVectors`: the recorded trace and the
names are still there, the vectors of live objects are those of the snapshot again. -/
structure Restored (sizes : List Nat) (live : List (List Ptr)) (trace : List RecordEvent)
    (symbolic : Symbolic) (data : EmpiricalData Weight) : Prop where
  placed : Placed (live.map List.length) symbolic
  small : symbolic.births ≤ 2 ^ 32
  fewClasses : live.length ≤ 2 ^ 16
  deathClasses : symbolic.deaths.map Prod.fst = deathClasses trace
  birthOrDeath : data.birthOrDeath = trace.map RecordEvent.isBirth
  traceClasses : data.birthOrDeathSizes = trace.map fun event => event.class % 2 ^ 16
  actualSizes : data.birthOrDeathActualSizes = trace.map fun event => sizes.getD event.class 0
  objs : data.state.map (·.objs) = live
  names : data.state.map (·.objsIndicesAfterRecording) = symbolic.indices
  noUpdates : ∀ s ∈ data.state, s.objUpdate = [] ∧ s.birthUpdate = [] ∧ s.deathUpdate = []
  deaths : data.deathObjIndices = symbolic.deaths.map Prod.snd
  births : data.birthObjectIndex = symbolic.births
  noObjects : data.birthPointers = [] ∧ data.birthObjects = [] ∧ data.deathObjects = []

variable {sizes : List Nat} {live : List (List Ptr)} {trace : List RecordEvent}
  {symbolic : Symbolic} {restored : EmpiricalData Weight}

/-- Restoring brings back the vectors of the snapshot and changes nothing else. -/
theorem Recording.restore (recording : Recording sizes live data symbolic) :
    ∃ state, restoreSnapshot data = some { data with state } ∧ state.map (·.objs) = live ∧
      state.map (·.objsIndicesAfterRecording) = symbolic.indices ∧
      ∀ s ∈ state, s.objUpdate = [] ∧ s.birthUpdate = [] ∧ s.deathUpdate = [] := by
  have sameLength : data.snapshotState.length = data.state.length := by
    rw [recording.classes_length, ← recording.snapshot, List.length_map]
  obtain ⟨state, run, stateObjs, stateLength, stateKept⟩ :=
    restoreObjs_eq data.snapshotState data.state sameLength
  refine ⟨state, ?_, stateObjs.trans recording.snapshot, ?_, ?_⟩
  · rw [restoreSnapshot, run]
    rfl
  · rw [← recording.indices]
    refine List.ext_getElem? fun i => ?_
    rw [List.getElem?_map, List.getElem?_map]
    cases found : state[i]? with
    | none =>
      rw [List.getElem?_eq_none_iff, stateLength] at found
      rw [List.getElem?_eq_none found]
    | some s =>
      obtain ⟨old, oldEq, same⟩ := stateKept i s found
      rw [oldEq, same]
      rfl
  · intro s member
    obtain ⟨i, bound, rfl⟩ := List.mem_iff_getElem.mp member
    obtain ⟨old, oldEq, same⟩ := stateKept i _ (List.getElem?_eq_getElem bound)
    rw [same]
    exact recording.noUpdates old (List.mem_of_getElem? oldEq)

theorem restoreSnapshot_restored (recording : Recording sizes live data symbolic)
    (fewClasses : live.length ≤ 2 ^ 16) (fewBirths : symbolic.births < 2 ^ 32) :
    ∃ restored, restoreSnapshot data = some restored ∧
      Restored sizes live data.recorded symbolic restored := by
  obtain ⟨state, run, objs, names, noUpdates⟩ := recording.restore
  refine ⟨{ data with state }, run, recording.placed, Nat.le_of_lt fewBirths, fewClasses,
    symbolicRun_deathClasses recording.run, recording.birthOrDeath, recording.classes,
    recording.actualSizes, objs, names, noUpdates, recording.deaths, ?_, recording.noObjects⟩
  rw [recording.births]
  exact Nat.mod_eq_of_lt fewBirths

theorem Restored.names_of_state (ready : Restored sizes live trace symbolic restored) {i : Nat}
    {s : SizeState Weight} (found : restored.state[i]? = some s) :
    symbolic.indices[i]? = some s.objsIndicesAfterRecording := by
  rw [← ready.names, List.getElem?_map, found]
  rfl

theorem Restored.objs_of_state (ready : Restored sizes live trace symbolic restored) {i : Nat}
    {s : SizeState Weight} (found : restored.state[i]? = some s) :
    live[i]? = some s.objs := by
  rw [← ready.objs, List.getElem?_map, found]
  rfl

/-- The three vectors `BuildUpdateVectors` sizes before its loops. -/
def sized (symbolic : Symbolic) (data : EmpiricalData Weight) : EmpiricalData Weight :=
  { data with
    birthPointers := List.replicate symbolic.births .null
    birthObjects := List.replicate symbolic.births nullptr
    deathObjects := List.replicate symbolic.deaths.length nullptr }

theorem Restored.readable (ready : Restored sizes live trace symbolic restored) :
    DeathsReadable (sized symbolic restored) symbolic.deaths := by
  have bounded : ∀ death ∈ symbolic.deaths, death.1 < live.length := by
    intro death member
    have inside := ready.placed.deadClass death member
    rwa [List.length_map] at inside
  refine ⟨ready.deaths, ?_, ?_, ?_, ?_, List.length_replicate⟩
  · intro death member
    exact Nat.lt_of_lt_of_le (bounded death member) ready.fewClasses
  · intro i old member
    obtain ⟨length, lengthEq, inside⟩ := ready.placed.dead i old member
    have bound : i < restored.state.length := by
      rw [← List.length_map fun s : SizeState Weight => s.objs, ready.objs]
      exact bounded _ member
    refine ⟨restored.state[i], List.getElem?_eq_getElem bound, ?_⟩
    rw [List.getElem?_map, ready.objs_of_state (List.getElem?_eq_getElem bound)] at lengthEq
    cases lengthEq
    exact inside
  · intro i k member
    obtain ⟨j, bound, standing⟩ := List.mem_iff_getElem.mp member
    show k < (List.replicate symbolic.births Slot.null).length
    rw [List.length_replicate]
    have dead : symbolic.deaths[j]? = some (i, ⟨true, k⟩) := by
      rw [List.getElem?_eq_getElem bound, standing]
    exact ready.placed.index_lt ready.small (Symbolic.places_pos_of_dead dead)
  · intro k
    have once := ready.placed.once ready.small k
    rw [Symbolic.places] at once
    split at once <;> omega

/-- What a recording hands over to the replay. -/
structure Ready (sizes : List Nat) (live : List (List Ptr)) (trace : List RecordEvent)
    (symbolic : Symbolic) (data : EmpiricalData Weight) : Prop where
  planned : Planned sizes trace symbolic data
  loaded : Loaded symbolic data
  objs : data.state.map (·.objs) = live
  births : data.birthObjects.length = symbolic.births
  deaths : data.deathObjects.length = symbolic.deaths.length

/-- `BuildUpdateVectors` is its two loops, run on the list of deaths and on the classes. -/
theorem buildUpdateVectors_run (ready : Restored sizes live trace symbolic restored)
    {middle : EmpiricalData Weight} {final : List (SizeState Weight)} {slots : List Slot}
    (deathsRun : buildDeathUpdates (symbolic.deaths.map fun death => (false, death.1 % 2 ^ 16)) 0
      (sized symbolic restored) = some middle)
    (objectsRun : buildObjectUpdates middle.state middle.birthPointers = some (final, slots)) :
    buildUpdateVectors restored =
      some { middle with state := final, birthPointers := slots } := by
  obtain ⟨noPointers, noBirths, noDeaths⟩ := ready.noObjects
  have counted : restored.deathObjIndices.length = symbolic.deaths.length := by
    rw [ready.deaths, List.length_map]
  have zipped : restored.birthOrDeath.zip restored.birthOrDeathSizes =
      trace.map fun event => (event.isBirth, event.class % 2 ^ 16) := by
    rw [ready.birthOrDeath, ready.traceClasses, List.zip_map']
  have deathsOnly : (deathClasses trace).map (fun i => (false, i % 2 ^ 16)) =
      symbolic.deaths.map fun death => (false, death.1 % 2 ^ 16) := by
    rw [← ready.deathClasses, List.map_map]
    rfl
  have sizedEq : ({ restored with
      birthPointers := resize restored.birthPointers restored.birthObjectIndex .null
      birthObjects := resize restored.birthObjects restored.birthObjectIndex nullptr
      deathObjects := resize restored.deathObjects restored.deathObjIndices.length nullptr } :
      EmpiricalData Weight) = sized symbolic restored := by
    simp only [sized, noPointers, noBirths, noDeaths, resize_nil, counted, ready.births]
  rw [buildUpdateVectors, sizedEq]
  show (buildDeathUpdates (restored.birthOrDeath.zip restored.birthOrDeathSizes) 0
    (sized symbolic restored)).bind _ = _
  rw [zipped, buildDeathUpdates_births, deathsOnly, deathsRun]
  show (buildObjectUpdates middle.state middle.birthPointers).bind _ = _
  rw [objectsRun]
  rfl

section Done

variable {middle : EmpiricalData Weight} {done : List (Nat × ObjectIndex)} {s : SizeState Weight}

/-- The deaths change no class but in its `deathUpdate`. -/
theorem DeathsDone.class_of_mem (deathsDone : DeathsDone (sized symbolic restored) middle done)
    (member : s ∈ middle.state) :
    ∃ (i : Nat) (old : SizeState Weight), restored.state[i]? = some old ∧
      s = { old with deathUpdate := s.deathUpdate } := by
  obtain ⟨i, bound, rfl⟩ := List.mem_iff_getElem.mp member
  obtain ⟨old, oldEq, same, -⟩ := deathsDone.classes.2 i _ (List.getElem?_eq_getElem bound)
  exact ⟨i, old, oldEq, same⟩

theorem Restored.noUpdates_of_done (ready : Restored sizes live trace symbolic restored)
    (deathsDone : DeathsDone (sized symbolic restored) middle done) (member : s ∈ middle.state) :
    s.objUpdate = [] ∧ s.birthUpdate = [] := by
  obtain ⟨i, old, oldEq, same⟩ := deathsDone.class_of_mem member
  have blank := ready.noUpdates old (List.mem_of_getElem? oldEq)
  rw [same]
  exact ⟨blank.1, blank.2.1⟩

theorem Restored.standing_of_done (ready : Restored sizes live trace symbolic restored)
    (deathsDone : DeathsDone (sized symbolic restored) middle done) (member : s ∈ middle.state) :
    s.objsIndicesAfterRecording ∈ symbolic.indices := by
  obtain ⟨i, old, oldEq, same⟩ := deathsDone.class_of_mem member
  have sameNames : s.objsIndicesAfterRecording = old.objsIndicesAfterRecording := by rw [same]
  rw [sameNames]
  exact List.mem_of_getElem? (ready.names_of_state oldEq)

/-- An object born in the trace that stands in a class has a slot. -/
theorem Restored.addressed_of_done (ready : Restored sizes live trace symbolic restored)
    (deathsDone : DeathsDone (sized symbolic restored) middle done) (member : s ∈ middle.state)
    {k : Nat} (born : ⟨true, k⟩ ∈ s.objsIndicesAfterRecording) :
    k < middle.birthPointers.length := by
  obtain ⟨i, iBound, iEq⟩ := List.mem_iff_getElem.mp (ready.standing_of_done deathsDone member)
  obtain ⟨slot, slotBound, slotEq⟩ := List.mem_iff_getElem.mp born
  rw [deathsDone.pointers]
  show k < (List.replicate symbolic.births Slot.null).length
  rw [List.length_replicate]
  exact ready.placed.index_lt ready.small (Symbolic.places_pos_of_live
    (List.getElem?_eq_getElem iBound)
    (by rw [iEq, List.getElem?_eq_getElem slotBound, slotEq]))

variable {final : List (SizeState Weight)} {slots : List Slot}

/-- Both loops together leave a class its objects and give it the moves of its names. -/
theorem Restored.class_of_done (ready : Restored sizes live trace symbolic restored)
    (deathsDone : DeathsDone (sized symbolic restored) middle symbolic.deaths)
    (classes : ∀ (i : Nat) s, final[i]? = some s → ∃ old before current,
      middle.state[i]? = some old ∧ ObjectsDone old s before current old.objsIndicesAfterRecording)
    {i : Nat} (found : final[i]? = some s) :
    ∃ old, restored.state[i]? = some old ∧ s.objs = old.objs ∧ ClassPlanned symbolic i s := by
  obtain ⟨inner, before, current, innerEq, objectsDone⟩ := classes i s found
  obtain ⟨old, oldEq, same, deathMoves⟩ := deathsDone.classes.2 i inner innerEq
  have named : symbolic.indices[i]? = some inner.objsIndicesAfterRecording := by
    rw [ready.names_of_state oldEq, same]
  refine ⟨old, oldEq, ?_, ?_, objectsDone.ordered, ?_, ?_⟩
  · rw [objectsDone.frame, same]
  · intro move
    rw [objectsDone.objUpdate move, named]
    simp
  · intro move
    rw [objectsDone.birthUpdate move, named]
    simp
  · intro move
    rw [← deathMoves move, objectsDone.frame]

/-- The objects of the classes are the live objects again. -/
theorem Restored.objs_of_done (ready : Restored sizes live trace symbolic restored)
    (deathsDone : DeathsDone (sized symbolic restored) middle symbolic.deaths)
    (classes : ∀ (i : Nat) s, final[i]? = some s → ∃ old before current,
      middle.state[i]? = some old ∧ ObjectsDone old s before current old.objsIndicesAfterRecording)
    (length : final.length = middle.state.length) : final.map (·.objs) = live := by
  rw [← ready.objs]
  refine List.ext_getElem? fun i => ?_
  rw [List.getElem?_map, List.getElem?_map]
  cases found : final[i]? with
  | none =>
    rw [List.getElem?_eq_none_iff, length, deathsDone.classes.1] at found
    rw [show restored.state[i]? = none from List.getElem?_eq_none found]
  | some s =>
    obtain ⟨old, oldEq, sameObjs, -⟩ := ready.class_of_done deathsDone classes found
    rw [oldEq, Option.map_some, Option.map_some, sameObjs]

/-- An object born in the trace that stands in a class after it has its own slot. -/
theorem Restored.kept_of_done (ready : Restored sizes live trace symbolic restored)
    (deathsDone : DeathsDone (sized symbolic restored) middle done)
    (kept : ∀ s ∈ middle.state, ∀ k, ⟨true, k⟩ ∈ s.objsIndicesAfterRecording →
      slots[k]? = some (.birthObject k)) {i slot k : Nat} {objs : List ObjectIndex}
    (named : symbolic.indices[i]? = some objs) (born : objs[slot]? = some ⟨true, k⟩) :
    slots[k]? = some (.birthObject k) := by
  have bound : i < middle.state.length := by
    rw [deathsDone.classes.1]
    have inside := (List.getElem?_eq_some_iff.mp named).1
    rwa [← ready.names, List.length_map] at inside
  obtain ⟨old, oldEq, same, -⟩ := deathsDone.classes.2 i _ (List.getElem?_eq_getElem bound)
  have sameNames : middle.state[i].objsIndicesAfterRecording = objs := by
    rw [ready.names_of_state oldEq] at named
    rw [same]
    exact Option.some.inj named
  refine kept _ (List.getElem_mem bound) k ?_
  rw [sameNames]
  exact List.mem_of_getElem? born

end Done

theorem buildUpdateVectors_ready (ready : Restored sizes live trace symbolic restored) :
    ∃ built, buildUpdateVectors restored = some built ∧
      Ready sizes live trace symbolic built := by
  obtain ⟨middle, deathsRun, deathsDone⟩ := buildDeathUpdates_done ready.readable
    (List.nil_append _).symm
    (deathsDone_nil (sized symbolic restored) fun s member => (ready.noUpdates s member).2.2)
  obtain ⟨final, slots, objectsRun, length, classes, kept, others⟩ :=
    buildObjectUpdates_done middle.state middle.birthPointers
      (fun s member => ready.noUpdates_of_done deathsDone member)
      fun s member k born => ready.addressed_of_done deathsDone member born
  have objs := ready.objs_of_done deathsDone classes length
  refine ⟨{ middle with state := final, birthPointers := slots },
    buildUpdateVectors_run ready deathsRun objectsRun, ⟨?_, ?_, ?_, ?_, ?_⟩, ?_, objs, ?_, ?_⟩
  · show middle.birthOrDeath = _
    rw [deathsDone.frame]
    exact ready.birthOrDeath
  · show middle.birthOrDeathActualSizes = _
    rw [deathsDone.frame]
    exact ready.actualSizes
  · intro j i k dead
    show slots[k]? = _
    rw [others k fun s member born =>
      ready.placed.notMem_deaths ready.small (ready.standing_of_done deathsDone member) born j i
        dead]
    exact deathsDone.killed j i k dead
  · intro i slot k objs named born
    exact ready.kept_of_done deathsDone kept named born
  · intro i s found
    obtain ⟨_, -, -, planned⟩ := ready.class_of_done deathsDone classes found
    exact planned
  · intro j i old dead
    obtain ⟨s, found, inside, loaded⟩ := deathsDone.loaded j i old dead
    have sameObjs : (final.map (·.objs))[i]? = some s.objs := by
      rw [objs, ready.objs_of_state found]
    rw [List.getElem?_map] at sameObjs
    obtain ⟨finalState, finalEq, finalObjs⟩ := Option.map_eq_some_iff.mp sameObjs
    refine ⟨finalState, finalEq, ?_, ?_⟩
    · rw [finalObjs]
      exact inside
    · rw [finalObjs]
      exact loaded
  · show middle.birthObjects.length = _
    rw [deathsDone.frame]
    exact List.length_replicate
  · exact deathsDone.objects.trans List.length_replicate

end Fleetbench.Tcmalloc
