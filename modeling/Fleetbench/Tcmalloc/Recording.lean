/-
This file ties the recording functions of the model to the symbolic run: after
any number of recorded events, the vectors `EmpiricalData` has built are the
symbolic state of the same events, and the repair pass is one more list of
events that brings every class back to its snapshot length.
-/

import Fleetbench.Tcmalloc.Symbolic
import Mathlib.Data.Option.Basic

namespace Fleetbench.Tcmalloc

open Library

variable {Weight : Type}

/-! ### What a recorded event leaves in the trace vectors -/

def RecordEvent.isBirth : RecordEvent → Bool
  | .birth _ => true
  | .death _ _ => false

def RecordEvent.class : RecordEvent → Nat
  | .birth i => i
  | .death i _ => i

/-- The members of `data` hold the symbolic state `symbolic` of the recorded events, over
classes of the given sizes whose live objects at the snapshot were `live`. -/
structure Recording (sizes : List Nat) (live : List (List Ptr)) (data : EmpiricalData Weight)
    (symbolic : Symbolic) : Prop where
  run : symbolicRun data.recorded (symbolicStart (live.map List.length)) = some symbolic
  indices : data.state.map (·.objsIndicesAfterRecording) = symbolic.indices
  lengths : ∀ s ∈ data.state, s.objs.length = s.objsIndicesAfterRecording.length
  classSizes : data.state.map (·.size) = sizes
  snapshot : data.snapshotState.map (·.objs) = live
  deaths : data.deathObjIndices = symbolic.deaths.map Prod.snd
  births : data.birthObjectIndex = symbolic.births % 2 ^ 32
  birthOrDeath : data.birthOrDeath = data.recorded.map RecordEvent.isBirth
  classes : data.birthOrDeathSizes = data.recorded.map fun event => event.class % 2 ^ 16
  actualSizes : data.birthOrDeathActualSizes =
    data.recorded.map fun event => sizes.getD event.class 0
  noUpdates : ∀ s ∈ data.state, s.objUpdate = [] ∧ s.birthUpdate = [] ∧ s.deathUpdate = []
  noObjects : data.birthPointers = [] ∧ data.birthObjects = [] ∧ data.deathObjects = []

variable {sizes : List Nat} {live : List (List Ptr)} {data next : EmpiricalData Weight}
  {symbolic : Symbolic}

theorem Recording.placed (recording : Recording sizes live data symbolic) :
    Placed (live.map List.length) symbolic :=
  placed_run (placed_start _) recording.run

theorem Recording.indices_of_state (recording : Recording sizes live data symbolic) {i : Nat}
    {s : SizeState Weight} (found : data.state[i]? = some s) :
    symbolic.indices[i]? = some s.objsIndicesAfterRecording := by
  rw [← recording.indices, List.getElem?_map, found]
  rfl

theorem Recording.size_of_state (recording : Recording sizes live data symbolic) {i : Nat}
    {s : SizeState Weight} (found : data.state[i]? = some s) : sizes.getD i 0 = s.size := by
  rw [← recording.classSizes, List.getD_eq_getElem?_getD, List.getElem?_map, found]
  rfl

theorem Recording.classes_length (recording : Recording sizes live data symbolic) :
    data.state.length = live.length := by
  have counted := recording.placed.classes
  rwa [← recording.indices, List.length_map, List.length_map] at counted

/-! ### Recording one event -/

variable [Zero Weight] [Add Weight] [Neg Weight]

omit [Neg Weight] in
theorem recordBirth_recording (recording : Recording sizes live data symbolic) {i : Nat}
    (recorded : recordBirth i data = some next) :
    ∃ symbolic', symbolicStep symbolic (.birth i) = some symbolic' ∧
      next.recorded = data.recorded ++ [.birth i] ∧ Recording sizes live next symbolic' := by
  simp only [recordBirth, Option.bind_eq_bind, Option.bind_eq_some_iff, Option.pure_def,
    Option.some.injEq] at recorded
  obtain ⟨s, found, rfl⟩ := recorded
  have named := recording.indices_of_state found
  have step : symbolicStep symbolic (.birth i) = some ⟨symbolic.indices.set i
      (s.objsIndicesAfterRecording ++ [⟨true, symbolic.births % 2 ^ 32⟩]), symbolic.births + 1,
      symbolic.deaths⟩ := by
    rw [symbolicStep, named]
    rfl
  refine ⟨_, step, rfl, ?_⟩
  constructor
  · rw [symbolicRun_append, recording.run]
    show (symbolicStep symbolic (.birth i)).bind (symbolicRun []) = _
    rw [step]
    rfl
  · show List.map _ (data.state.set i _) = symbolic.indices.set i _
    rw [List.map_set, recording.indices, recording.births]
  · intro other member
    rcases List.mem_or_eq_of_mem_set member with old | rfl
    · exact recording.lengths other old
    · simp only [List.length_append, recording.lengths s (List.mem_of_getElem? found),
        List.length_singleton]
  · show List.map _ (data.state.set i _) = sizes
    rw [List.map_set, ← recording.classSizes]
    exact set_of_getElem? (by rw [List.getElem?_map, found]; rfl)
  · exact recording.snapshot
  · exact recording.deaths
  · show (data.birthObjectIndex + 1) % 2 ^ 32 = (symbolic.births + 1) % 2 ^ 32
    rw [recording.births, Nat.mod_add_mod]
  · show data.birthOrDeath ++ [true] = _
    rw [recording.birthOrDeath, List.map_append]
    rfl
  · show data.birthOrDeathSizes ++ [i % 2 ^ 16] = _
    rw [recording.classes, List.map_append]
    rfl
  · show data.birthOrDeathActualSizes ++ [s.size] = _
    rw [recording.actualSizes, List.map_append, ← recording.size_of_state found]
    rfl
  · intro other member
    rcases List.mem_or_eq_of_mem_set member with old | rfl
    · exact recording.noUpdates other old
    · exact recording.noUpdates s (List.mem_of_getElem? found)
  · exact recording.noObjects

theorem recordDeath_recording (recording : Recording sizes live data symbolic) {i toFree : Nat}
    (recorded : recordDeath i toFree data = some next) :
    ∃ symbolic', symbolicStep symbolic (.death i toFree) = some symbolic' ∧
      next.recorded = data.recorded ++ [.death i toFree] ∧
      Recording sizes live next symbolic' := by
  simp only [recordDeath, Option.bind_eq_bind, Option.bind_eq_some_iff, Option.pure_def,
    Option.some.injEq] at recorded
  obtain ⟨s, found, _, _, _, _, index, picked, rfl⟩ := recorded
  have named := recording.indices_of_state found
  have step : symbolicStep symbolic (.death i toFree) = some ⟨symbolic.indices.set i
      (swapRemove s.objsIndicesAfterRecording toFree), symbolic.births,
      symbolic.deaths ++ [(i, index)]⟩ := by
    simp only [symbolicStep, named, Option.bind_eq_bind, Option.bind_some, picked]
    rfl
  refine ⟨_, step, rfl, ?_⟩
  constructor
  · rw [symbolicRun_append, recording.run]
    show (symbolicStep symbolic (.death i toFree)).bind (symbolicRun []) = _
    rw [step]
    rfl
  · show List.map _ (data.state.set i _) = symbolic.indices.set i _
    rw [List.map_set, recording.indices]
  · intro other member
    rcases List.mem_or_eq_of_mem_set member with old | rfl
    · exact recording.lengths other old
    · simp only [length_swapRemove, recording.lengths s (List.mem_of_getElem? found)]
  · show List.map _ (data.state.set i _) = sizes
    rw [List.map_set, ← recording.classSizes]
    exact set_of_getElem? (by rw [List.getElem?_map, found]; rfl)
  · exact recording.snapshot
  · show data.deathObjIndices ++ [index] = (symbolic.deaths ++ [(i, index)]).map Prod.snd
    rw [recording.deaths, List.map_append]
    rfl
  · exact recording.births
  · show data.birthOrDeath ++ [false] = _
    rw [recording.birthOrDeath, List.map_append]
    rfl
  · show data.birthOrDeathSizes ++ [i % 2 ^ 16] = _
    rw [recording.classes, List.map_append]
    rfl
  · show data.birthOrDeathActualSizes ++ [s.size] = _
    rw [recording.actualSizes, List.map_append, ← recording.size_of_state found]
    rfl
  · intro other member
    rcases List.mem_or_eq_of_mem_set member with old | rfl
    · exact recording.noUpdates other old
    · exact recording.noUpdates s (List.mem_of_getElem? found)
  · exact recording.noObjects

/-- Recording one more event extends the symbolic run by that event. -/
theorem recordNext_recording (recording : Recording sizes live data symbolic)
    {event : RecordEvent} (recorded : recordNext data event = some next) :
    ∃ symbolic', symbolicStep symbolic event = some symbolic' ∧
      next.recorded = data.recorded ++ [event] ∧ Recording sizes live next symbolic' := by
  cases event with
  | birth i => exact recordBirth_recording recording recorded
  | death i toFree => exact recordDeath_recording recording recorded

theorem recordAll_recording {events : List RecordEvent}
    (recording : Recording sizes live data symbolic)
    (recorded : recordAll events data = some next) :
    ∃ symbolic', next.recorded = data.recorded ++ events ∧
      Recording sizes live next symbolic' := by
  induction events generalizing data symbolic with
  | nil =>
    cases recorded
    exact ⟨symbolic, (List.append_nil _).symm, recording⟩
  | cons event rest inductionHypothesis =>
    obtain ⟨middle, first, later⟩ := Option.bind_eq_some_iff.mp recorded
    obtain ⟨symbolic', _, extended, recording'⟩ := recordNext_recording recording first
    obtain ⟨symbolic'', whole, recording''⟩ := inductionHypothesis recording' later
    refine ⟨symbolic'', ?_, recording''⟩
    rw [whole, extended, List.append_assoc]
    rfl

/-! ### The repair pass -/

omit [Zero Weight] [Add Weight] [Neg Weight] in
/-- The number of live objects of every class. -/
def EmpiricalData.counts (data : EmpiricalData Weight) : List Nat :=
  data.state.map fun s => s.objs.length

omit [Zero Weight] [Add Weight] [Neg Weight] in
theorem Recording.counts_eq (recording : Recording sizes live data symbolic) :
    data.counts = symbolic.indices.map List.length := by
  rw [← recording.indices, List.map_map]
  exact List.map_congr_left recording.lengths

omit [Zero Weight] [Add Weight] [Neg Weight] in
theorem state_of_counts {i count : Nat} (counted : data.counts[i]? = some count) :
    ∃ s, data.state[i]? = some s ∧ s.objs.length = count := by
  rw [EmpiricalData.counts, List.getElem?_map] at counted
  exact Option.map_eq_some_iff.mp counted

omit [Neg Weight] in
theorem recordBirth_counts {i count : Nat} (counted : data.counts[i]? = some count) :
    ∃ next, recordBirth i data = some next ∧ next.counts = data.counts.set i (count + 1) := by
  obtain ⟨s, found, rfl⟩ := state_of_counts counted
  rw [recordBirth, found]
  refine ⟨_, rfl, ?_⟩
  show List.map _ (data.state.set i _) = _
  rw [List.map_set, List.length_append]
  rfl

theorem recordDeath_counts (recording : Recording sizes live data symbolic) {i toFree count : Nat}
    (counted : data.counts[i]? = some count) (drawn : toFree < count) :
    ∃ next, recordDeath i toFree data = some next ∧
      next.counts = data.counts.set i (count - 1) := by
  obtain ⟨s, found, rfl⟩ := state_of_counts counted
  have named : toFree < s.objsIndicesAfterRecording.length := by
    rw [← recording.lengths s (List.mem_of_getElem? found)]
    exact drawn
  have inhabited : s.objs ≠ [] := List.ne_nil_of_length_pos (Nat.zero_lt_of_lt drawn)
  simp only [recordDeath, found, Option.bind_eq_bind, Option.bind_some, inhabited, drawn,
    List.getElem?_eq_getElem named, guard, ne_eq, not_false_eq_true, if_true, Option.pure_def,
    Option.some.injEq]
  refine ⟨_, rfl, ?_⟩
  show List.map _ (data.state.set i _) = _
  rw [List.map_set, length_swapRemove]
  rfl

omit [Zero Weight] [Add Weight] [Neg Weight] in
/-- What a stretch of the repair has to do to a recording in progress: stay a recording, only
append events, and leave the given object counts. -/
def Extends (sizes : List Nat) (live : List (List Ptr)) (data next : EmpiricalData Weight)
    (counts : List Nat) : Prop :=
  (∃ symbolic, Recording sizes live next symbolic) ∧
    (∃ events, next.recorded = data.recorded ++ events) ∧ next.counts = counts

omit [Neg Weight] in
theorem recordBirthsUpTo_extends (i target : Nat) {fuel count : Nat}
    (recording : Recording sizes live data symbolic)
    (counted : data.counts[i]? = some count) (enough : target - count ≤ fuel) :
    ∃ next, recordBirthsUpTo i target fuel data = some next ∧
      Extends sizes live data next (data.counts.set i (max count target)) := by
  induction fuel generalizing data symbolic count with
  | zero =>
    obtain ⟨s, found, rfl⟩ := state_of_counts counted
    have done : ¬ s.objs.length < target := by omega
    rw [recordBirthsUpTo, found]
    refine ⟨data, if_neg done, ⟨symbolic, recording⟩, ⟨[], (List.append_nil _).symm⟩, ?_⟩
    rw [Nat.max_eq_left (Nat.le_of_not_lt done), set_of_getElem? counted]
  | succ fuel inductionHypothesis =>
    obtain ⟨s, found, rfl⟩ := state_of_counts counted
    by_cases short : s.objs.length < target
    · obtain ⟨middle, born, bornCounts⟩ := recordBirth_counts counted
      obtain ⟨symbolic', _, recorded, recording'⟩ := recordBirth_recording recording born
      have counted' : middle.counts[i]? = some (s.objs.length + 1) := by
        rw [bornCounts, List.getElem?_set_self (List.getElem?_eq_some_iff.mp counted).1]
      obtain ⟨next, run, final, ⟨events, later⟩, counts⟩ :=
        inductionHypothesis recording' counted' (by omega)
      refine ⟨next, ?_, final, ⟨.birth i :: events, ?_⟩, ?_⟩
      · rw [recordBirthsUpTo, found]
        show (if s.objs.length < target then _ else _) = _
        rw [if_pos short, born]
        exact run
      · rw [later, recorded, List.append_assoc]
        rfl
      · rw [counts, bornCounts, List.set_set, Nat.max_eq_right (by omega),
          Nat.max_eq_right (by omega)]
    · rw [recordBirthsUpTo, found]
      refine ⟨data, if_neg short, ⟨symbolic, recording⟩, ⟨[], (List.append_nil _).symm⟩, ?_⟩
      rw [Nat.max_eq_left (Nat.le_of_not_lt short), set_of_getElem? counted]

theorem recordDeathsDownTo_extends {draw : Nat → Nat → Nat}
    (admissible : ∀ i length, 0 < length → draw i length < length) (i target : Nat)
    {fuel count : Nat} (recording : Recording sizes live data symbolic)
    (counted : data.counts[i]? = some count) (enough : count - target ≤ fuel) :
    ∃ next, recordDeathsDownTo draw i target fuel data = some next ∧
      Extends sizes live data next (data.counts.set i (min count target)) := by
  induction fuel generalizing data symbolic count with
  | zero =>
    obtain ⟨s, found, rfl⟩ := state_of_counts counted
    have done : ¬ target < s.objs.length := by omega
    rw [recordDeathsDownTo, found]
    refine ⟨data, if_neg done, ⟨symbolic, recording⟩, ⟨[], (List.append_nil _).symm⟩, ?_⟩
    rw [Nat.min_eq_left (Nat.le_of_not_lt done), set_of_getElem? counted]
  | succ fuel inductionHypothesis =>
    obtain ⟨s, found, rfl⟩ := state_of_counts counted
    by_cases long : target < s.objs.length
    · obtain ⟨middle, died, diedCounts⟩ := recordDeath_counts recording counted
        (admissible i s.objs.length (by omega))
      obtain ⟨symbolic', _, recorded, recording'⟩ := recordDeath_recording recording died
      have counted' : middle.counts[i]? = some (s.objs.length - 1) := by
        rw [diedCounts, List.getElem?_set_self (List.getElem?_eq_some_iff.mp counted).1]
      obtain ⟨next, run, final, ⟨events, later⟩, counts⟩ :=
        inductionHypothesis recording' counted' (by omega)
      refine ⟨next, ?_, final, ⟨.death i (draw i s.objs.length) :: events, ?_⟩, ?_⟩
      · rw [recordDeathsDownTo, found]
        show (if target < s.objs.length then _ else _) = _
        rw [if_pos long, died]
        exact run
      · rw [later, recorded, List.append_assoc]
        rfl
      · rw [counts, diedCounts, List.set_set, Nat.min_eq_right (by omega),
          Nat.min_eq_right (by omega)]
    · rw [recordDeathsDownTo, found]
      refine ⟨data, if_neg long, ⟨symbolic, recording⟩, ⟨[], (List.append_nil _).symm⟩, ?_⟩
      rw [Nat.min_eq_left (Nat.le_of_not_lt long), set_of_getElem? counted]

omit [Zero Weight] [Add Weight] [Neg Weight] in
theorem Extends.trans {middle : EmpiricalData Weight} {first second : List Nat}
    (earlier : Extends sizes live data middle first)
    (later : Extends sizes live middle next second) : Extends sizes live data next second := by
  obtain ⟨-, ⟨front, frontEq⟩, -⟩ := earlier
  obtain ⟨recording, ⟨back, backEq⟩, counts⟩ := later
  exact ⟨recording, ⟨front ++ back, by rw [backEq, frontEq, List.append_assoc]⟩, counts⟩

theorem recordRepairClass_extends {draw : Nat → Nat → Nat}
    (admissible : ∀ i length, 0 < length → draw i length < length) {i target : Nat}
    (recording : Recording sizes live data symbolic)
    (wanted : (live.map List.length)[i]? = some target) :
    ∃ next, recordRepairClass draw i data = some next ∧
      Extends sizes live data next (data.counts.set i target) := by
  have bound : i < data.state.length := by
    rw [recording.classes_length, ← List.length_map List.length]
    exact (List.getElem?_eq_some_iff.mp wanted).1
  obtain ⟨snapshot, snapshotEq, rfl⟩ : ∃ snapshot, data.snapshotState[i]? = some snapshot ∧
      snapshot.objs.length = target := by
    rw [← recording.snapshot, List.getElem?_map, List.getElem?_map, Option.map_map] at wanted
    exact Option.map_eq_some_iff.mp wanted
  have found : data.state[i]? = some data.state[i] := List.getElem?_eq_getElem bound
  have counted : data.counts[i]? = some data.state[i].objs.length := by
    rw [EmpiricalData.counts, List.getElem?_map, found]
    rfl
  obtain ⟨middle, grown, grownExtends⟩ := recordBirthsUpTo_extends i snapshot.objs.length
    recording counted (Nat.le_refl _)
  have ⟨⟨symbolic', recording'⟩, _, grownCounts⟩ := grownExtends
  have counted' : middle.counts[i]? =
      some (max data.state[i].objs.length snapshot.objs.length) := by
    rw [grownCounts, List.getElem?_set_self (List.getElem?_eq_some_iff.mp counted).1]
  have enough : max data.state[i].objs.length snapshot.objs.length - snapshot.objs.length ≤
      data.state[i].objs.length - snapshot.objs.length := by
    omega
  obtain ⟨next, shrunk, shrunkExtends⟩ := recordDeathsDownTo_extends admissible i
    snapshot.objs.length recording' counted' enough
  refine ⟨next, ?_, ?_⟩
  · rw [recordRepairClass, found, snapshotEq]
    show (recordBirthsUpTo i snapshot.objs.length _ data).bind _ = some next
    rw [grown]
    exact shrunk
  · have whole := grownExtends.trans shrunkExtends
    rwa [grownCounts, List.set_set, Nat.min_eq_right (Nat.le_max_right _ _)] at whole

/-- After the repair loop has visited the given classes, exactly these have their snapshot
length again. -/
theorem recordRepairFrom_extends {draw : Nat → Nat → Nat}
    (admissible : ∀ i length, 0 < length → draw i length < length) (classes : List Nat)
    (bounded : ∀ i ∈ classes, i < live.length) (recording : Recording sizes live data symbolic) :
    ∃ next, recordRepairFrom draw classes data = some next ∧
      Extends sizes live data next next.counts ∧
      ∀ i, next.counts[i]? = if i ∈ classes then (live.map List.length)[i]?
        else data.counts[i]? := by
  induction classes generalizing data symbolic with
  | nil =>
    refine ⟨data, rfl, ⟨⟨symbolic, recording⟩, ⟨[], (List.append_nil _).symm⟩, rfl⟩, ?_⟩
    intro i
    rw [if_neg List.not_mem_nil]
  | cons i rest inductionHypothesis =>
    have inside : i < (live.map List.length).length := by
      rw [List.length_map]
      exact bounded i List.mem_cons_self
    obtain ⟨middle, repaired, firstExtends⟩ := recordRepairClass_extends admissible recording
      (List.getElem?_eq_getElem inside)
    have ⟨⟨symbolic', recording'⟩, _, middleCounts⟩ := firstExtends
    obtain ⟨next, run, restExtends, counts⟩ := inductionHypothesis
      (fun j member => bounded j (List.mem_cons_of_mem _ member)) recording'
    refine ⟨next, ?_, firstExtends.trans restExtends, ?_⟩
    · rw [recordRepairFrom, repaired]
      exact run
    · intro j
      have counted : i < data.counts.length := by
        rw [EmpiricalData.counts, List.length_map, recording.classes_length]
        exact bounded i List.mem_cons_self
      rw [counts j, middleCounts]
      by_cases later : j ∈ rest
      · rw [if_pos later, if_pos (List.mem_cons_of_mem _ later)]
      · rw [if_neg later]
        by_cases here : j = i
        · subst here
          rw [if_pos List.mem_cons_self, List.getElem?_set_self counted,
            List.getElem?_eq_getElem inside]
        · rw [if_neg (by simp [here, later]), List.getElem?_set_ne (Ne.symm here)]

/-- The repair pass never fails, and brings every class back to its snapshot length. -/
theorem recordRepair_recording {draw : Nat → Nat → Nat}
    (admissible : ∀ i length, 0 < length → draw i length < length)
    (recording : Recording sizes live data symbolic) :
    ∃ next symbolic', recordRepairToSnapshotState draw data = some next ∧
      Recording sizes live next symbolic' ∧
      symbolic'.indices.map List.length = live.map List.length ∧
      ∃ events, next.recorded = data.recorded ++ events := by
  obtain ⟨next, run, ⟨⟨symbolic', recording'⟩, extended, -⟩, counts⟩ :=
    recordRepairFrom_extends admissible (List.range data.state.length)
      (fun i member => by
        rw [← recording.classes_length]
        exact List.mem_range.mp member) recording
  refine ⟨next, symbolic', run, recording', ?_, extended⟩
  rw [← recording'.counts_eq]
  refine List.ext_getElem? fun i => ?_
  rw [counts i]
  split
  · rfl
  · rename_i outside
    have late : data.state.length ≤ i := by
      rw [List.mem_range] at outside
      exact Nat.le_of_not_lt outside
    rw [List.getElem?_eq_none (by rwa [EmpiricalData.counts, List.length_map]),
      List.getElem?_eq_none (by rwa [List.length_map, ← recording.classes_length])]

/-! ### The constructor -/

omit [Zero Weight] [Add Weight] [Neg Weight] in
/-- What the warm-up loop leaves alone: nothing is recorded, no snapshot is taken, and the
classes have no vectors but `objs`. -/
structure Blank (sizes : List Nat) (data : EmpiricalData Weight) : Prop where
  classSizes : data.state.map (·.size) = sizes
  noIndices : ∀ s ∈ data.state, s.objsIndicesAfterRecording = []
  noUpdates : ∀ s ∈ data.state, s.objUpdate = [] ∧ s.birthUpdate = [] ∧ s.deathUpdate = []
  noTrace : data.recorded = [] ∧ data.birthOrDeath = [] ∧ data.birthOrDeathSizes = [] ∧
    data.birthOrDeathActualSizes = [] ∧ data.deathObjIndices = [] ∧ data.birthObjectIndex = 0
  noObjects : data.birthPointers = [] ∧ data.birthObjects = [] ∧ data.deathObjects = []
  noSnapshot : data.snapshotState = []

omit [Neg Weight] in
/-- One warm-up birth is one birth of the eager simulation. -/
theorem doBirth_blank (alloc : Allocator) {i : Nat} {calls nextCalls : List Call}
    (blank : Blank sizes data) (run : doBirth alloc i data calls = some (next, nextCalls)) :
    Blank sizes next ∧ eagerStep alloc sizes ⟨data.state.map (·.objs), calls⟩ (.birth i) =
      some ⟨next.state.map (·.objs), nextCalls⟩ := by
  simp only [doBirth, Option.bind_eq_bind, Option.bind_eq_some_iff, Option.pure_def,
    Option.some.injEq, Prod.mk.injEq] at run
  obtain ⟨s, found, rfl, rfl⟩ := run
  have member := List.mem_of_getElem? found
  refine ⟨⟨?_, ?_, ?_, blank.noTrace, blank.noObjects, blank.noSnapshot⟩, ?_⟩
  · show List.map _ (data.state.set i _) = sizes
    rw [List.map_set, ← blank.classSizes]
    exact set_of_getElem? (by rw [List.getElem?_map, found]; rfl)
  · intro other inside
    rcases List.mem_or_eq_of_mem_set inside with old | rfl
    · exact blank.noIndices other old
    · exact blank.noIndices s member
  · intro other inside
    rcases List.mem_or_eq_of_mem_set inside with old | rfl
    · exact blank.noUpdates other old
    · exact blank.noUpdates s member
  · simp only [eagerStep, ← blank.classSizes, List.getElem?_map, found, Option.map_some,
      Option.bind_eq_bind, Option.bind_some, Option.pure_def, List.map_set]

omit [Neg Weight] in
theorem doBirths_blank (alloc : Allocator) {draws : List Nat} {calls finalCalls : List Call}
    (blank : Blank sizes data)
    (run : doBirths alloc draws data calls = some (next, finalCalls)) :
    Blank sizes next ∧ eagerRun alloc sizes (draws.map .birth) ⟨data.state.map (·.objs), calls⟩ =
      some ⟨next.state.map (·.objs), finalCalls⟩ := by
  induction draws generalizing data calls with
  | nil =>
    cases run
    exact ⟨blank, rfl⟩
  | cons i rest inductionHypothesis =>
    obtain ⟨⟨middle, middleCalls⟩, first, later⟩ := Option.bind_eq_some_iff.mp run
    obtain ⟨blank', step⟩ := doBirth_blank alloc blank first
    obtain ⟨blank'', eager⟩ := inductionHypothesis blank' later
    refine ⟨blank'', ?_⟩
    rw [List.map_cons, eagerRun, step]
    exact eager

omit [Neg Weight] in
/-- A constructed object has recorded nothing yet; its live objects are the snapshot, and come
from the eager simulation of the warm-up births. -/
theorem construct_recording (alloc : Allocator) {weights : List (Nat × Weight)}
    {draws : List Nat} {calls : List Call}
    (built : construct alloc weights draws = some (data, calls)) :
    Recording (weights.map Prod.fst) (data.state.map (·.objs)) data
        (symbolicStart ((data.state.map (·.objs)).map List.length)) ∧
      data.recorded = [] ∧
      eagerRun alloc (weights.map Prod.fst) (draws.map .birth)
        ⟨(weights.map Prod.fst).map fun _ => [], []⟩ = some ⟨data.state.map (·.objs), calls⟩ := by
  simp only [construct, Option.bind_eq_bind, Option.bind_eq_some_iff, Option.pure_def,
    Option.some.injEq, Prod.mk.injEq] at built
  obtain ⟨sampler, -, ⟨warm, warmCalls⟩, run, rfl, rfl⟩ := built
  have empty : Blank (weights.map Prod.fst) ({
      state := weights.map fun w => { size := w.1, deathRate := w.2, objs := [] }
      deathSampler := sampler } : EmpiricalData Weight) := by
    refine ⟨by simp, ?_, ?_, ⟨rfl, rfl, rfl, rfl, rfl, rfl⟩, ⟨rfl, rfl, rfl⟩, rfl⟩
    · intro s member
      obtain ⟨w, -, rfl⟩ := List.mem_map.mp member
      rfl
    · intro s member
      obtain ⟨w, -, rfl⟩ := List.mem_map.mp member
      exact ⟨rfl, rfl, rfl⟩
  obtain ⟨blank, eager⟩ := doBirths_blank alloc empty run
  have objsEq : (warm.state.map fun s => ({ s with
      objsIndicesAfterRecording := s.objsIndicesAfterRecording ++
        (List.range s.objs.length).map fun i => ⟨false, i⟩ } : SizeState Weight)).map (·.objs) =
      warm.state.map (·.objs) := by
    rw [List.map_map]
    rfl
  simp only [snapshotLiveObjects, objsEq]
  obtain ⟨recordedEq, birthOrDeathEq, classesEq, sizesEq, deathsEq, birthsEq⟩ := blank.noTrace
  refine ⟨?_, recordedEq, ?_⟩
  · refine ⟨?_, ?_, ?_, ?_, ?_, ?_, ?_, ?_, ?_, ?_, ?_, blank.noObjects⟩
    · show symbolicRun warm.recorded _ = _
      rw [recordedEq]
      rfl
    · show List.map _ (List.map _ warm.state) = List.map _ (List.map _ _)
      rw [List.map_map, List.map_map, List.map_map]
      refine List.map_congr_left fun s member => ?_
      show s.objsIndicesAfterRecording ++ _ = _
      rw [blank.noIndices s member]
      rfl
    · intro s member
      obtain ⟨old, inside, rfl⟩ := List.mem_map.mp member
      simp [blank.noIndices old inside]
    · show List.map _ (List.map _ warm.state) = _
      rw [List.map_map]
      exact blank.classSizes
    · show List.map _ (warm.snapshotState ++ _) = _
      rw [blank.noSnapshot, List.nil_append, List.map_map]
      rfl
    · exact deathsEq
    · exact birthsEq
    · show warm.birthOrDeath = warm.recorded.map _
      rw [birthOrDeathEq, recordedEq]
      rfl
    · show warm.birthOrDeathSizes = warm.recorded.map _
      rw [classesEq, recordedEq]
      rfl
    · show warm.birthOrDeathActualSizes = warm.recorded.map _
      rw [sizesEq, recordedEq]
      rfl
    · intro s member
      obtain ⟨old, inside, rfl⟩ := List.mem_map.mp member
      exact blank.noUpdates old inside
  · rw [List.map_map] at eager ⊢
    exact eager

/-! ### From the constructor to the repair -/

omit [Neg Weight] in
theorem construct_classes {alloc : Allocator} {weights : List (Nat × Weight)} {draws : List Nat}
    {calls : List Call} (built : construct alloc weights draws = some (data, calls)) :
    data.state.length = weights.length := by
  obtain ⟨recording, -, -⟩ := construct_recording alloc built
  have counted := congrArg List.length recording.classSizes
  rwa [List.length_map, List.length_map] at counted

/-- Whatever a constructed object has recorded, the repair continues. -/
theorem exists_repaired {alloc : Allocator} {weights : List (Nat × Weight)} {draws : List Nat}
    {events : List RecordEvent} {draw : Nat → Nat → Nat} {calls : List Call}
    {recorded : EmpiricalData Weight}
    (admissible : ∀ i length, 0 < length → draw i length < length)
    (built : construct alloc weights draws = some (data, calls))
    (recordedEq : recordAll events data = some recorded) :
    ∃ repaired symbolic repairs, recordRepairToSnapshotState draw recorded = some repaired ∧
      repaired.recorded = events ++ repairs ∧
      Recording (weights.map Prod.fst) (data.state.map (·.objs)) repaired symbolic ∧
      symbolic.indices.map List.length = (data.state.map (·.objs)).map List.length := by
  obtain ⟨recording, noneRecorded, -⟩ := construct_recording alloc built
  obtain ⟨_, recordedEvents, recording'⟩ := recordAll_recording recording recordedEq
  obtain ⟨repaired, symbolic, repair, recording'', lengths, repairs, extended⟩ :=
    recordRepair_recording admissible recording'
  rw [recordedEvents, noneRecorded, List.nil_append] at extended
  exact ⟨repaired, symbolic, repairs, repair, extended, recording'', lengths⟩

/-- The repaired trace begins with the recorded events. -/
theorem repaired_recording {alloc : Allocator} {weights : List (Nat × Weight)}
    {draws : List Nat} {events : List RecordEvent} {draw : Nat → Nat → Nat} {calls : List Call}
    {recorded repaired : EmpiricalData Weight}
    (admissible : ∀ i length, 0 < length → draw i length < length)
    (built : construct alloc weights draws = some (data, calls))
    (recordedEq : recordAll events data = some recorded)
    (repair : recordRepairToSnapshotState draw recorded = some repaired) :
    ∃ symbolic repairs, repaired.recorded = events ++ repairs ∧
      Recording (weights.map Prod.fst) (data.state.map (·.objs)) repaired symbolic := by
  obtain ⟨_, symbolic, repairs, repair', extended, recording, _⟩ :=
    exists_repaired admissible built recordedEq
  cases repair.symm.trans repair'
  exact ⟨symbolic, repairs, extended, recording⟩

end Fleetbench.Tcmalloc
