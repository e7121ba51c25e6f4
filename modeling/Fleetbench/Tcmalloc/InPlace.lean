/-
This file proves that the update vectors may be applied in place. A swap with
the last element moves names left only and removes one of them, so along every
interleaving of births and deaths the old objects of a class stand at or left of
their old positions and stay distinct. The moves of a class are listed by the
slot they write, and no earlier move can have written a slot that lies right of
it: one pass over `objs` is the assignment of all moves at once.

The other half is about `birth_pointers_`. The loops of `BuildUpdateVectors` are
repeated with a list of the entries they set; every birth is set exactly once.
-/

import Fleetbench.Tcmalloc.Refinement

namespace Fleetbench.Tcmalloc

open Library

variable {Weight : Type} {sizes : List Nat} {live : List (List Ptr)}
  {trace : List RecordEvent} {symbolic next : Symbolic} {data : EmpiricalData Weight}

/-! ### Births and old objects among names -/

/-- The births that are named, in order. -/
def bornIndices (names : List ObjectIndex) : List Nat :=
  (names.filter (·.born)).map (·.index)

/-- The old positions of the objects that were there before the recording. -/
def oldIndices (names : List ObjectIndex) : List Nat :=
  (names.filter fun name => !name.born).map (·.index)

theorem bornIndices_append (first second : List ObjectIndex) :
    bornIndices (first ++ second) = bornIndices first ++ bornIndices second := by
  rw [bornIndices, List.filter_append, List.map_append]
  rfl

theorem bornIndices_old (index : Nat) (names : List ObjectIndex) :
    bornIndices (⟨false, index⟩ :: names) = bornIndices names := rfl

theorem bornIndices_born (index : Nat) (names : List ObjectIndex) :
    bornIndices (⟨true, index⟩ :: names) = index :: bornIndices names := rfl

theorem count_bornIndices (names : List ObjectIndex) (k : Nat) :
    (bornIndices names).count k = names.count ⟨true, k⟩ := by
  induction names with
  | nil => rfl
  | cons name rest inductionHypothesis =>
    obtain ⟨isBorn, index⟩ := name
    cases isBorn with
    | false =>
      rw [bornIndices_old, inductionHypothesis, List.count_cons_of_ne (by simp)]
    | true =>
      rw [bornIndices_born, List.count_cons, List.count_cons, inductionHypothesis]
      simp

/-- Names without repetition stay so when one of them is removed. -/
theorem nodup_oldIndices_swapRemove {names : List ObjectIndex} {toFree : Nat}
    {index : ObjectIndex} (distinct : (oldIndices names).Nodup)
    (picked : names[toFree]? = some index) : (oldIndices (swapRemove names toFree)).Nodup := by
  have shuffled := ((perm_swapRemove picked).filter fun name => !name.born).map (·.index)
  have fewer : (oldIndices (swapRemove names toFree)).Sublist
      (oldIndices (index :: swapRemove names toFree)) :=
    ((List.sublist_cons_self _ _).filter _).map _
  exact (shuffled.nodup_iff.mp distinct).sublist fewer

theorem oldIndices_birth (names : List ObjectIndex) (k : Nat) :
    oldIndices (names ++ [⟨true, k⟩]) = oldIndices names := by
  rw [oldIndices, List.filter_append, List.filter_cons_of_neg (by simp), List.filter_nil,
    List.append_nil]
  rfl

theorem oldIndices_range (length : Nat) :
    oldIndices ((List.range length).map fun i => ⟨false, i⟩) = List.range length := by
  have allOld : ∀ name ∈ (List.range length).map fun i => (⟨false, i⟩ : ObjectIndex),
      (!name.born) = true := by
    intro name member
    obtain ⟨i, -, rfl⟩ := List.mem_map.mp member
    rfl
  rw [oldIndices, List.filter_eq_self.mpr allOld, List.map_map]
  exact List.map_id _

/-! ### The old objects of a class stay distinct -/

def OldDistinct (symbolic : Symbolic) : Prop :=
  ∀ names ∈ symbolic.indices, (oldIndices names).Nodup

theorem oldDistinct_start (lengths : List Nat) : OldDistinct (symbolicStart lengths) := by
  intro names member
  obtain ⟨length, -, rfl⟩ := List.mem_map.mp member
  rw [oldIndices_range]
  exact List.nodup_range

theorem oldDistinct_step (distinct : OldDistinct symbolic) {event : RecordEvent}
    (step : symbolicStep symbolic event = some next) : OldDistinct next := by
  obtain ⟨i, objs, _, found, rfl⟩ | ⟨i, toFree, objs, index, _, found, picked, rfl⟩ :=
    symbolicStep_cases step
  · intro names member
    rcases List.mem_or_eq_of_mem_set member with earlier | rfl
    · exact distinct names earlier
    · rw [oldIndices_birth]
      exact distinct objs (List.mem_of_getElem? found)
  · intro names member
    rcases List.mem_or_eq_of_mem_set member with earlier | rfl
    · exact distinct names earlier
    · exact nodup_oldIndices_swapRemove (distinct objs (List.mem_of_getElem? found)) picked

theorem oldDistinct_run (distinct : OldDistinct symbolic)
    (run : symbolicRun trace symbolic = some next) : OldDistinct next := by
  induction trace generalizing symbolic with
  | nil =>
    cases run
    exact distinct
  | cons event rest inductionHypothesis =>
    obtain ⟨middle, step, run⟩ := Option.bind_eq_some_iff.mp run
    exact inductionHypothesis (oldDistinct_step distinct step) run

/-- The symbolic run counts the births of its trace. -/
theorem symbolicRun_birthCount (run : symbolicRun trace symbolic = some next) :
    next.births = symbolic.births + (trace.map RecordEvent.isBirth).count true := by
  induction trace generalizing symbolic with
  | nil =>
    cases run
    rfl
  | cons event rest inductionHypothesis =>
    obtain ⟨middle, step, run⟩ := Option.bind_eq_some_iff.mp run
    rw [inductionHypothesis run, List.map_cons, List.count_cons]
    obtain ⟨i, objs, rfl, _, rfl⟩ | ⟨i, toFree, objs, index, rfl, _, _, rfl⟩ :=
      symbolicStep_cases step
    · show symbolic.births + 1 + _ = symbolic.births + (_ + 1)
      omega
    · rfl

/-! ### The entries of `birth_pointers_` that are set -/

/-- `buildDeathUpdates` with the entries of `birth_pointers_` it sets, in order. -/
def buildDeathUpdatesLogged : List (Bool × Nat) → Nat → EmpiricalData Weight → List Nat →
    Option (EmpiricalData Weight × List Nat)
  | [], _, data, written => some (data, written)
  | (true, _) :: rest, deathIndex, data, written =>
    buildDeathUpdatesLogged rest deathIndex data written
  | (false, i) :: rest, deathIndex, data, written => do
    let index ← data.deathObjIndices[deathIndex]?
    if index.born = false then
      let s ← data.state[i]?
      let p ← s.objs[index.index]?
      let deathObjects ← writeAt data.deathObjects deathIndex p
      buildDeathUpdatesLogged rest (deathIndex + 1) { data with
        state := data.state.set i
          { s with deathUpdate := s.deathUpdate ++ [⟨index.index, deathIndex⟩] }
        deathObjects } written
    else
      let birthPointers ← writeAt data.birthPointers index.index (.deathObject deathIndex)
      buildDeathUpdatesLogged rest (deathIndex + 1) { data with birthPointers }
        (written ++ [index.index])

/-- `buildClassUpdates` with the entries of `birth_pointers_` it sets. -/
def buildClassUpdatesLogged : List ObjectIndex → Nat → SizeState Weight → List Slot →
    List Nat → Option (SizeState Weight × List Slot × List Nat)
  | [], _, s, birthPointers, written => some (s, birthPointers, written)
  | index :: rest, i, s, birthPointers, written =>
    if index.born = false then
      if index.index ≠ i then
        buildClassUpdatesLogged rest (i + 1)
          { s with objUpdate := s.objUpdate ++ [⟨index.index, i⟩] } birthPointers written
      else buildClassUpdatesLogged rest (i + 1) s birthPointers written
    else do
      let birthPointers ← writeAt birthPointers index.index (.birthObject index.index)
      buildClassUpdatesLogged rest (i + 1)
        { s with birthUpdate := s.birthUpdate ++ [⟨index.index, i⟩] } birthPointers
        (written ++ [index.index])

/-- `buildObjectUpdates` with the entries of `birth_pointers_` it sets. -/
def buildObjectUpdatesLogged : List (SizeState Weight) → List Slot → List Nat →
    Option (List (SizeState Weight) × List Slot × List Nat)
  | [], birthPointers, written => some ([], birthPointers, written)
  | s :: state, birthPointers, written => do
    let (s, birthPointers, written) ←
      buildClassUpdatesLogged s.objsIndicesAfterRecording 0 s birthPointers written
    let (state, birthPointers, written) ←
      buildObjectUpdatesLogged state birthPointers written
    return (s :: state, birthPointers, written)

/-- `buildUpdateVectors` with the entries of `birth_pointers_` it sets. -/
def buildUpdateVectorsLogged (data : EmpiricalData Weight) :
    Option (EmpiricalData Weight × List Nat) := do
  let data := { data with
    birthPointers := resize data.birthPointers data.birthObjectIndex .null
    birthObjects := resize data.birthObjects data.birthObjectIndex nullptr
    deathObjects := resize data.deathObjects data.deathObjIndices.length nullptr }
  let (data, written) ←
    buildDeathUpdatesLogged (data.birthOrDeath.zip data.birthOrDeathSizes) 0 data []
  let (state, birthPointers, written) ←
    buildObjectUpdatesLogged data.state data.birthPointers written
  return ({ data with state, birthPointers }, written)

/-- The number of deaths among the entries of a trace. -/
def deathCount (entries : List (Bool × Nat)) : Nat := entries.countP fun entry => !entry.1

/-- The first loop sets the births among the names it reads. -/
theorem buildDeathUpdatesLogged_eq (entries : List (Bool × Nat)) (deathIndex : Nat)
    (data : EmpiricalData Weight) (written : List Nat) :
    buildDeathUpdatesLogged entries deathIndex data written =
      (buildDeathUpdates entries deathIndex data).map fun after => (after, written ++
        bornIndices ((data.deathObjIndices.drop deathIndex).take (deathCount entries))) := by
  induction entries generalizing deathIndex data written with
  | nil =>
    show some (data, written) = some (data, written ++ [])
    rw [List.append_nil]
  | cons entry rest inductionHypothesis =>
    obtain ⟨isBirth, i⟩ := entry
    cases isBirth with
    | true => exact inductionHypothesis deathIndex data written
    | false =>
      rw [buildDeathUpdatesLogged, buildDeathUpdates]
      cases read : data.deathObjIndices[deathIndex]? with
      | none => rfl
      | some index =>
        obtain ⟨bound, isIndex⟩ := List.getElem?_eq_some_iff.mp read
        have counted : deathCount ((false, i) :: rest) = deathCount rest + 1 :=
          List.countP_cons_of_pos rfl
        rw [List.drop_eq_getElem_cons bound, counted, List.take_succ_cons, isIndex]
        obtain ⟨isBorn, index⟩ := index
        cases isBorn with
        | false =>
          rw [bornIndices_old]
          simp only [Option.bind_eq_bind, Option.bind_some, if_true, Option.map_bind,
            Function.comp_def, inductionHypothesis]
        | true =>
          rw [bornIndices_born]
          simp only [Option.bind_eq_bind, Option.bind_some, Bool.true_eq_false, if_false,
            Option.map_bind, Function.comp_def, inductionHypothesis, List.append_assoc,
            List.singleton_append]

theorem buildClassUpdatesLogged_eq (names : List ObjectIndex) (i : Nat) (s : SizeState Weight)
    (birthPointers : List Slot) (written : List Nat) :
    buildClassUpdatesLogged names i s birthPointers written =
      (buildClassUpdates names i s birthPointers).map fun after =>
        (after.1, after.2, written ++ bornIndices names) := by
  induction names generalizing i s birthPointers written with
  | nil =>
    show some (s, birthPointers, written) = some (s, birthPointers, written ++ [])
    rw [List.append_nil]
  | cons name rest inductionHypothesis =>
    obtain ⟨isBorn, index⟩ := name
    cases isBorn with
    | false =>
      rw [buildClassUpdatesLogged, buildClassUpdates, if_pos rfl, if_pos rfl, bornIndices_old]
      split
      · exact inductionHypothesis ..
      · exact inductionHypothesis ..
    | true =>
      rw [bornIndices_born]
      simp only [buildClassUpdatesLogged, buildClassUpdates, Bool.true_eq_false, if_false,
        Option.bind_eq_bind, Option.map_bind, Function.comp_def, inductionHypothesis,
        List.append_assoc, List.singleton_append]

/-- The second loop sets the births that stand in some class. -/
theorem buildObjectUpdatesLogged_eq (state : List (SizeState Weight))
    (birthPointers : List Slot) (written : List Nat) :
    buildObjectUpdatesLogged state birthPointers written =
      (buildObjectUpdates state birthPointers).map fun after => (after.1, after.2, written ++
        bornIndices (state.map (·.objsIndicesAfterRecording)).flatten) := by
  induction state generalizing birthPointers written with
  | nil =>
    show some ([], birthPointers, written) = some ([], birthPointers, written ++ [])
    rw [List.append_nil]
  | cons s state inductionHypothesis =>
    rw [List.map_cons, List.flatten_cons, bornIndices_append, ← List.append_assoc]
    simp only [buildObjectUpdatesLogged, buildObjectUpdates, buildClassUpdatesLogged_eq,
      inductionHypothesis, Option.bind_eq_bind, Option.pure_def, Option.map_eq_bind,
      Option.bind_assoc, Option.bind_some, Function.comp_def]

/-! ### What the loops leave alone -/

/-- A class without its `deathUpdate`. -/
def SizeState.beforeDeaths (s : SizeState Weight) : SizeState Weight :=
  { s with deathUpdate := [] }

/-- The first loop changes no class but in its `deathUpdate`, and no number of addresses. -/
theorem buildDeathUpdates_kept {entries : List (Bool × Nat)} {deathIndex : Nat}
    {after : EmpiricalData Weight}
    (run : buildDeathUpdates entries deathIndex data = some after) :
    after.deathObjIndices = data.deathObjIndices ∧
      after.birthPointers.length = data.birthPointers.length ∧
      after.state.map SizeState.beforeDeaths = data.state.map SizeState.beforeDeaths := by
  induction entries generalizing deathIndex data with
  | nil =>
    cases run
    exact ⟨rfl, rfl, rfl⟩
  | cons entry rest inductionHypothesis =>
    obtain ⟨isBirth, i⟩ := entry
    cases isBirth with
    | true => exact inductionHypothesis run
    | false =>
      obtain ⟨index, _, run⟩ := Option.bind_eq_some_iff.mp run
      split at run
      · obtain ⟨s, found, run⟩ := Option.bind_eq_some_iff.mp run
        obtain ⟨p, _, run⟩ := Option.bind_eq_some_iff.mp run
        obtain ⟨deathObjects, _, run⟩ := Option.bind_eq_some_iff.mp run
        obtain ⟨deaths, pointers, classes⟩ := inductionHypothesis run
        refine ⟨deaths, pointers, classes.trans ?_⟩
        rw [List.map_set]
        refine set_of_getElem? ?_
        rw [List.getElem?_map, found]
        rfl
      · obtain ⟨birthPointers, write, run⟩ := Option.bind_eq_some_iff.mp run
        obtain ⟨deaths, pointers, classes⟩ := inductionHypothesis run
        exact ⟨deaths, pointers.trans (length_of_writeAt write), classes⟩

theorem names_of_beforeDeaths {state others : List (SizeState Weight)}
    (same : state.map SizeState.beforeDeaths = others.map SizeState.beforeDeaths) :
    state.map (·.objsIndicesAfterRecording) = others.map (·.objsIndicesAfterRecording) := by
  have names := congrArg (List.map (·.objsIndicesAfterRecording)) same
  rwa [List.map_map, List.map_map] at names

theorem length_resize {Value : Type} (values : List Value) (size : Nat) (filler : Value) :
    (resize values size filler).length = size := by
  rw [resize, List.length_append, List.length_take, List.length_replicate]
  omega

/-- `BuildUpdateVectors` makes one address for each recorded birth and gives each class the
moves of its own names; the objects and names of a class stay. -/
theorem buildUpdateVectors_classes {built : EmpiricalData Weight}
    (build : buildUpdateVectors data = some built)
    (noUpdates : ∀ s ∈ data.state, s.objUpdate = [] ∧ s.birthUpdate = []) :
    built.deathObjIndices = data.deathObjIndices ∧
      built.birthPointers.length = data.birthObjectIndex ∧
      built.state.length = data.state.length ∧
      ∀ (i : Nat) s, built.state[i]? = some s → ∃ old first before current,
        data.state[i]? = some old ∧ s.objs = old.objs ∧
        s.objsIndicesAfterRecording = old.objsIndicesAfterRecording ∧
        ObjectsDone first s before current s.objsIndicesAfterRecording := by
  obtain ⟨middle, deathsRun, build⟩ := Option.bind_eq_some_iff.mp build
  obtain ⟨⟨state, slots⟩, objectsRun, build⟩ := Option.bind_eq_some_iff.mp build
  cases build
  obtain ⟨deaths, pointers, same⟩ := buildDeathUpdates_kept deathsRun
  have kept (i : Nat) (s : SizeState Weight) (found : middle.state[i]? = some s) :
      ∃ old, data.state[i]? = some old ∧ s.beforeDeaths = old.beforeDeaths := by
    have found' := congrArg (·[i]?) same
    simp only [List.getElem?_map, found, Option.map_some] at found'
    obtain ⟨old, oldEq, blank⟩ := Option.map_eq_some_iff.mp found'.symm
    exact ⟨old, oldEq, blank.symm⟩
  obtain ⟨slotsLength, length, classes⟩ := buildObjectUpdates_classes objectsRun
    fun s member => by
      obtain ⟨i, found⟩ := List.mem_iff_getElem?.mp member
      obtain ⟨old, oldEq, blank⟩ := kept i s found
      have none := noUpdates old (List.mem_of_getElem? oldEq)
      exact ⟨(congrArg (·.objUpdate) blank).trans none.1,
        (congrArg (·.birthUpdate) blank).trans none.2⟩
  have sameLength := congrArg List.length same
  rw [List.length_map, List.length_map] at sameLength
  refine ⟨deaths, (slotsLength.trans pointers).trans (length_resize ..),
    length.trans sameLength, fun i s found => ?_⟩
  obtain ⟨first, before, current, firstEq, done⟩ := classes i s found
  obtain ⟨old, oldEq, blank⟩ := kept i first firstEq
  have objs : s.objs = first.objs := by rw [done.frame]
  have names : s.objsIndicesAfterRecording = first.objsIndicesAfterRecording := by
    rw [done.frame]
  exact ⟨old, first, before, current, oldEq, objs.trans (congrArg (·.objs) blank),
    names.trans (congrArg (·.objsIndicesAfterRecording) blank), names ▸ done⟩

/-- The logged `BuildUpdateVectors` does what the other does, and its list names the births that
died in the recording and those that stand in a class. -/
theorem buildUpdateVectorsLogged_eq {built : EmpiricalData Weight}
    (build : buildUpdateVectors data = some built) :
    buildUpdateVectorsLogged data = some (built, bornIndices (data.deathObjIndices.take
        (deathCount (data.birthOrDeath.zip data.birthOrDeathSizes)) ++
      (data.state.map (·.objsIndicesAfterRecording)).flatten)) := by
  obtain ⟨middle, deathsRun, build⟩ := Option.bind_eq_some_iff.mp build
  obtain ⟨⟨state, slots⟩, objectsRun, build⟩ := Option.bind_eq_some_iff.mp build
  cases build
  obtain ⟨-, -, same⟩ := buildDeathUpdates_kept deathsRun
  have names := names_of_beforeDeaths same
  simp only [buildUpdateVectorsLogged, buildDeathUpdatesLogged_eq, deathsRun, Option.bind_eq_bind,
    Option.map_some, Option.bind_some, buildObjectUpdatesLogged_eq, objectsRun, Option.pure_def,
    names, List.nil_append, List.drop_zero, bornIndices_append]

/-! ### The moves of one class -/

/-- What makes the update vectors of one class safe to apply in place, on any vector as long as
its live objects. -/
structure UpdatesInPlace (s : SizeState Weight) : Prop where
  leftward : ∀ slot old : Nat, s.objsIndicesAfterRecording[slot]? = some ⟨false, old⟩ → slot ≤ old
  distinct : (oldIndices s.objsIndicesAfterRecording).Nodup
  moves : ∀ move, move ∈ s.objUpdate ↔
    s.objsIndicesAfterRecording[move.toSlot]? = some ⟨false, move.fromSlot⟩ ∧
      move.fromSlot ≠ move.toSlot
  ordered : s.objUpdate.Pairwise fun earlier later => earlier.toSlot ≠ later.fromSlot
  simultaneous : ∀ objs : List Ptr, objs.length = s.objs.length →
    copyWithin s.objUpdate objs = some (assign s.objUpdate objs)
  disjoint : ∀ move ∈ s.objUpdate, ∀ birth ∈ s.birthUpdate, move.toSlot ≠ birth.toSlot

section OneClass

variable {i : Nat} {first s : SizeState Weight} {before current : List Slot}

/-- A later move reads at or right of the slot it writes, and that slot lies right of all slots
written before. -/
theorem pairwise_reads {moves : List UpdatePair}
    (ordered : moves.Pairwise fun earlier later => earlier.toSlot < later.toSlot)
    (leftward : ∀ move ∈ moves, move.toSlot ≤ move.fromSlot) :
    moves.Pairwise fun earlier later => earlier.toSlot ≠ later.fromSlot := by
  refine ordered.imp_of_mem fun {earlier later} _ isLater before => ?_
  exact Nat.ne_of_lt (Nat.lt_of_lt_of_le before (leftward later isLater))

theorem updatesInPlace_of_done (placed : Placed (live.map List.length) symbolic)
    (distinct : OldDistinct symbolic)
    (names : symbolic.indices[i]? = some s.objsIndicesAfterRecording)
    (objects : live[i]? = some s.objs)
    (done : ObjectsDone first s before current s.objsIndicesAfterRecording) :
    UpdatesInPlace s := by
  have leftward (slot old : Nat)
      (standing : s.objsIndicesAfterRecording[slot]? = some ⟨false, old⟩) :
      slot ≤ old ∧ old < s.objs.length := by
    obtain ⟨left, length, lengthEq, inside⟩ := placed.survivor i _ slot old names standing
    rw [List.getElem?_map, objects] at lengthEq
    cases lengthEq
    exact ⟨left, inside⟩
  have bounded (move : UpdatePair) (member : move ∈ s.objUpdate) :
      move.toSlot ≤ move.fromSlot ∧ move.fromSlot < s.objs.length :=
    leftward _ _ ((done.objUpdate move).mp member).1
  have ordered := pairwise_reads done.ordered fun move member => (bounded move member).1
  refine ⟨fun slot old standing => (leftward slot old standing).1,
    distinct _ (List.mem_of_getElem? names), done.objUpdate, ordered, fun objs length => ?_, ?_⟩
  · refine copyWithin_eq_assign ordered ?_ ?_ ?_
    · intro move member
      rw [length]
      exact (bounded move member).2
    · intro move member
      rw [length]
      exact Nat.lt_of_le_of_lt (bounded move member).1 (bounded move member).2
    · rintro ⟨fromSlot, toSlot⟩ member ⟨otherFrom, otherTo⟩ otherMember same
      have standing := ((done.objUpdate _).mp member).1
      have otherStanding := ((done.objUpdate _).mp otherMember).1
      simp only at same standing otherStanding
      subst same
      cases standing.symm.trans otherStanding
      rfl
  · intro move member birth isBirth same
    have standing := ((done.objUpdate move).mp member).1
    rw [same, (done.birthUpdate birth).mp isBirth] at standing
    cases standing

end OneClass

/-! ### All classes and all births -/

/-- Every birth of the trace is in one place, among the dead or in one class, and its entry of
`birth_pointers_` is set once. -/
structure BirthsOnce (repaired restored built : EmpiricalData Weight) : Prop where
  place : ∀ k, built.deathObjIndices.count ⟨true, k⟩ +
      (built.state.map (·.objsIndicesAfterRecording)).flatten.count ⟨true, k⟩ =
    if k < repaired.birthOrDeath.count true then 1 else 0
  addresses : built.birthPointers.length = repaired.birthOrDeath.count true
  written : ∃ written, buildUpdateVectorsLogged restored = some (built, written) ∧
    written.Perm (List.range (repaired.birthOrDeath.count true))

section Built

variable {restored built : EmpiricalData Weight}

theorem Recording.births_eq_count (recording : Recording sizes live data symbolic) :
    symbolic.births = data.birthOrDeath.count true := by
  rw [symbolicRun_birthCount recording.run, recording.birthOrDeath]
  exact Nat.zero_add _

theorem Recording.deathCount_eq (recording : Recording sizes live data symbolic) :
    deathCount (data.birthOrDeath.zip data.birthOrDeathSizes) = data.deathObjIndices.length := by
  have deaths : symbolic.deaths.map Prod.fst = deathClasses data.recorded :=
    symbolicRun_deathClasses recording.run
  rw [recording.birthOrDeath, recording.classes, List.zip_map', deathCount, List.countP_map,
    recording.deaths, List.length_map, ← List.length_map Prod.fst, deaths, deathClasses,
    List.length_map, List.countP_eq_length_filter]
  rfl

/-- Whatever the numbers of classes and births, the vectors that are built may be applied in
place. -/
theorem Recording.updatesInPlace (recording : Recording sizes live data symbolic)
    (restore : restoreSnapshot data = some restored)
    (build : buildUpdateVectors restored = some built) : ∀ s ∈ built.state, UpdatesInPlace s := by
  obtain ⟨state, run, objs, names, noUpdates⟩ := recording.restore
  cases restore.symm.trans run
  obtain ⟨-, -, -, classes⟩ := buildUpdateVectors_classes build fun s member =>
    ⟨(noUpdates s member).1, (noUpdates s member).2.1⟩
  intro s member
  obtain ⟨i, found⟩ := List.mem_iff_getElem?.mp member
  obtain ⟨old, first, before, current, oldEq, sameObjs, sameNames, done⟩ := classes i s found
  have distinct := oldDistinct_run (oldDistinct_start _) recording.run
  have named : symbolic.indices[i]? = some s.objsIndicesAfterRecording := by
    rw [← names, List.getElem?_map, oldEq, sameNames]
    rfl
  have objects : live[i]? = some s.objs := by
    rw [← objs, List.getElem?_map, oldEq, sameObjs]
    rfl
  exact updatesInPlace_of_done recording.placed distinct named objects done

/-- The names of the classes are those of the recording. -/
theorem Recording.built_names (recording : Recording sizes live data symbolic)
    (restore : restoreSnapshot data = some restored)
    (build : buildUpdateVectors restored = some built) :
    restored.state.map (·.objsIndicesAfterRecording) = symbolic.indices ∧
      built.state.map (·.objsIndicesAfterRecording) = symbolic.indices ∧
      built.deathObjIndices = data.deathObjIndices ∧
      built.birthPointers.length = data.birthObjectIndex := by
  obtain ⟨state, run, -, names, noUpdates⟩ := recording.restore
  cases restore.symm.trans run
  obtain ⟨deaths, pointers, length, classes⟩ := buildUpdateVectors_classes build fun s member =>
    ⟨(noUpdates s member).1, (noUpdates s member).2.1⟩
  refine ⟨names, ?_, deaths, pointers⟩
  rw [← names]
  refine List.ext_getElem? fun i => ?_
  rw [List.getElem?_map, List.getElem?_map]
  cases found : built.state[i]? with
  | none =>
    rw [List.getElem?_eq_none_iff, length] at found
    rw [List.getElem?_eq_none found]
  | some s =>
    obtain ⟨old, _, _, _, oldEq, -, sameNames, -⟩ := classes i s found
    rw [oldEq, Option.map_some, Option.map_some, sameNames]

/-- Up to the range of the counter, the births that died and the births that stand in a class are
all births, each once. -/
theorem Recording.birthsOnce (recording : Recording sizes live data symbolic)
    (few : symbolic.births < 2 ^ 32) (restore : restoreSnapshot data = some restored)
    (build : buildUpdateVectors restored = some built) : BirthsOnce data restored built := by
  obtain ⟨names, builtNames, deaths, pointers⟩ := recording.built_names restore build
  have once := recording.placed.once (Nat.le_of_lt few)
  obtain ⟨state, run, -, -, -⟩ := recording.restore
  cases restore.symm.trans run
  refine ⟨fun k => ?_, ?_, _, buildUpdateVectorsLogged_eq build, ?_⟩
  · rw [deaths, builtNames, recording.deaths, ← recording.births_eq_count]
    exact once k
  · rw [pointers, recording.births, Nat.mod_eq_of_lt few, recording.births_eq_count]
  · refine List.perm_iff_count.mpr fun k => ?_
    rw [names, recording.deathCount_eq, List.take_length, count_bornIndices, List.count_append,
      recording.deaths, ← recording.births_eq_count, List.nodup_range.count]
    simp only [List.mem_range]
    exact once k

end Built

variable [Zero Weight] [Add Weight] [Neg Weight]

/-- What the update vectors promise for one set of classes, one warm-up, one recording and one
choice of the draws of the repair. -/
def UpdatesSafely (alloc : Allocator) (weights : List (Nat × Weight)) (draws : List Nat)
    (events : List RecordEvent) (draw : Nat → Nat → Nat) : Prop :=
  ∀ data calls recorded, construct alloc weights draws = some (data, calls) →
    recordAll events data = some recorded →
    ∃ repaired restored built,
      recordRepairToSnapshotState draw recorded = some repaired ∧
      restoreSnapshot repaired = some restored ∧
      buildUpdateVectors restored = some built ∧
      (∀ s ∈ built.state, UpdatesInPlace s) ∧
      BirthsOnce repaired restored built

/-- The update vectors of every recorded and repaired trace may be applied in place. They are
built if the class numbers fit in 16 bits and the births in 32, and with so few births every
birth has one place and one address. -/
theorem updatesSafely_of_fits (alloc : Allocator) (weights : List (Nat × Weight))
    (draws : List Nat) (events : List RecordEvent) (draw : Nat → Nat → Nat)
    (admissible : ∀ i length, 0 < length → draw i length < length)
    {data recorded : EmpiricalData Weight} {calls : List Call}
    (made : construct alloc weights draws = some (data, calls))
    (recordedEq : recordAll events data = some recorded) :
    ∃ repaired restored,
      recordRepairToSnapshotState draw recorded = some repaired ∧
      restoreSnapshot repaired = some restored ∧
      (∀ built, buildUpdateVectors restored = some built →
        (∀ s ∈ built.state, UpdatesInPlace s) ∧
        (repaired.birthOrDeath.count true < 2 ^ 32 → BirthsOnce repaired restored built)) ∧
      (weights.length ≤ 2 ^ 16 → repaired.birthOrDeath.count true < 2 ^ 32 →
        ∃ built, buildUpdateVectors restored = some built) := by
  obtain ⟨repaired, symbolic, -, repair, -, recording, -⟩ :=
    exists_repaired admissible made recordedEq
  obtain ⟨state, restore, -⟩ := recording.restore
  have births := recording.births_eq_count
  refine ⟨repaired, _, repair, restore, fun built build => ?_, fun fewClasses few => ?_⟩
  · exact ⟨recording.updatesInPlace restore build, fun few =>
      recording.birthsOnce (births ▸ few) restore build⟩
  · have classCount : (data.state.map (·.objs)).length = weights.length := by
      rw [List.length_map, construct_classes made]
    obtain ⟨restored, restore', isRestored⟩ :=
      restoreSnapshot_restored recording (classCount ▸ fewClasses) (births ▸ few)
    cases restore.symm.trans restore'
    obtain ⟨built, build, -⟩ := buildUpdateVectors_ready isRestored
    exact ⟨built, build⟩

/-- Two classes, with an object that is moved twice, births in both classes and repairs in both
directions. -/
theorem updatesSafely_twoClasses :
    ((construct bumpAllocator [(8, (1 : Int)), (16, 2)] [0, 0, 0, 0, 1]).bind fun made =>
        recordAll [.death 0 0, .death 0 0, .birth 0, .death 0 1, .birth 1] made.1).isSome = true ∧
      UpdatesSafely bumpAllocator [(8, (1 : Int)), (16, 2)] [0, 0, 0, 0, 1]
        [.death 0 0, .death 0 0, .birth 0, .death 0 1, .birth 1] fun _ _ => 0 := by
  refine ⟨by decide +kernel, fun data calls recorded made recordedEq => ?_⟩
  obtain ⟨repaired, restored, repair, restore, whenBuilt, builds⟩ := updatesSafely_of_fits _ _ _ _
    (fun _ _ => 0) (fun _ _ inhabited => inhabited) made recordedEq
  have counted : ((construct bumpAllocator [(8, (1 : Int)), (16, 2)] [0, 0, 0, 0, 1]).bind
      fun made => (recordAll [.death 0 0, .death 0 0, .birth 0, .death 0 1, .birth 1] made.1).bind
        fun recorded => (recordRepairToSnapshotState (fun _ _ => 0) recorded).map
          (·.birthOrDeath.count true)) = some 4 := by decide +kernel
  rw [made, Option.bind_some, recordedEq, Option.bind_some, repair] at counted
  have exactly : repaired.birthOrDeath.count true = 4 := Option.some.inj counted
  have few : repaired.birthOrDeath.count true < 2 ^ 32 := by omega
  obtain ⟨built, build⟩ := builds (by decide) few
  obtain ⟨inPlace, once⟩ := whenBuilt built build
  exact ⟨repaired, restored, built, repair, restore, build, inPlace, once few⟩

/-! ### Beyond the bounds -/

theorem eagerRun_oneBirth {classes m : Nat} (inRange : m < classes) :
    eagerRun bumpAllocator (List.replicate classes 8) [.birth m]
        ⟨List.replicate classes [], []⟩ =
      some ⟨(List.replicate classes []).set m [1], [.alloc 8 1]⟩ := by
  have birth : eagerStep bumpAllocator (List.replicate classes 8) ⟨List.replicate classes [], []⟩
      (.birth m) = some ⟨(List.replicate classes []).set m [1], [.alloc 8 1]⟩ := by
    simp only [eagerStep, List.getElem?_replicate, if_pos inRange]
    rfl
  rw [eagerRun, birth]
  rfl

/-- The death of the only object, recorded for a class whose number is stored as `0`, is looked
up in the empty class `0`. -/
theorem not_updatesSafely_of_storedAlike {classes m : Nat} (positive : 0 < m)
    (inRange : m < classes) (alike : m % 2 ^ 16 = 0) :
    ¬ UpdatesSafely bumpAllocator (List.replicate classes (8, (0 : Int))) [m]
        [.death m 0, .birth m] (fun _ _ => 0) := by
  intro safely
  have first : 0 < classes := Nat.lt_trans positive inRange
  obtain ⟨data, calls, made⟩ := construct_total bumpAllocator
    (List.replicate classes (8, (0 : Int))) [m]
    (by rw [List.length_replicate]; exact first) (by simp [inRange])
  obtain ⟨recording, _, warmUp⟩ := construct_recording bumpAllocator made
  rw [List.map_replicate, List.map_replicate] at warmUp
  have live := (eagerRun_oneBirth inRange).symm.trans warmUp
  rw [Option.some.injEq, Eager.mk.injEq] at live
  have empty : (data.state.map (·.objs))[0]? = some [] := by
    rw [← live.1, List.getElem?_set_ne (Nat.ne_of_gt positive), List.getElem?_replicate,
      if_pos first]
  have alone : (data.state.map (·.objs))[m]? = some [1] := by
    rw [← live.1, List.getElem?_set_self (by simpa using inRange)]
  obtain ⟨recorded, recordedEq⟩ := recordAll_deathThenBirth recording alone
  obtain ⟨repaired, restored, built, repair, restore, build, -⟩ :=
    safely data calls recorded made recordedEq
  obtain ⟨symbolic, repairs, extended, recording'⟩ :=
    repaired_recording (fun _ _ inhabited => inhabited) made recordedEq repair
  obtain ⟨objs, p, found, picked, -⟩ :=
    buildUpdateVectors_firstDeath recording' extended restore build
  rw [alike, empty] at found
  cases found
  cases picked

/-- `birth_pointers_` gets as many entries as a 32-bit counter says. -/
theorem not_updatesSafely_of_manyBirths {births : Nat} (many : 2 ^ 32 ≤ births) :
    ¬ UpdatesSafely bumpAllocator [(8, (0 : Int))] [] (List.replicate births (.birth 0))
        (fun _ _ => 0) := by
  intro safely
  obtain ⟨data, calls, made⟩ := construct_total bumpAllocator [(8, (0 : Int))] []
    (by decide) (by simp)
  have oneClass : data.counts.length = 1 := by
    rw [EmpiricalData.counts, List.length_map, construct_classes made]
    rfl
  obtain ⟨recorded, recordedEq⟩ := recordAll_births 0 births (oneClass ▸ Nat.one_pos)
  obtain ⟨repaired, restored, built, repair, restore, build, -, once⟩ :=
    safely data calls recorded made recordedEq
  obtain ⟨symbolic, repairs, extended, recording⟩ :=
    repaired_recording (fun _ _ inhabited => inhabited) made recordedEq repair
  have enough : births ≤ repaired.birthOrDeath.count true := by
    rw [recording.birthOrDeath, extended, List.map_append, List.map_replicate, List.count_append]
    exact Nat.le_add_right_of_le (Nat.le_of_eq List.count_replicate_self.symm)
  have wrapped : symbolic.births % 2 ^ 32 < 2 ^ 32 := Nat.mod_lt _ (by decide)
  have addresses := once.addresses
  rw [(recording.built_names restore build).2.2.2, recording.births] at addresses
  omega

/-- `65537` classes are one too many, and so are `2 ^ 32` births. -/
theorem not_updatesSafely_beyond_fits :
    ¬ UpdatesSafely bumpAllocator (List.replicate 65537 (8, (0 : Int))) [65536]
        [.death 65536 0, .birth 65536] (fun _ _ => 0) ∧
      ¬ UpdatesSafely bumpAllocator [(8, (0 : Int))] [] (List.replicate (2 ^ 32) (.birth 0))
        (fun _ _ => 0) :=
  ⟨not_updatesSafely_of_storedAlike (by decide) (by decide) (by decide),
    not_updatesSafely_of_manyBirths (Nat.le_refl _)⟩

end Fleetbench.Tcmalloc
