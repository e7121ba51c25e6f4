/-
This file runs the recording on names instead of pointers. A name is the object
that stood at an index before the recording, or the object of the k-th birth of
the recording; the live vectors, and the list of the objects that died, hold
names. `objs_indices_after_recording` and `death_obj_indices_` are exactly the
result of this run.

Three facts about it carry everything that follows. A surviving name never moves
right. Every birth is, at any time, in exactly one place: among the dead, or in
one slot of one class. And replacing each name by the pointer it stands for
turns the symbolic run into the eager simulation.
-/

import Fleetbench.Tcmalloc.Eager

namespace Fleetbench.Tcmalloc

open Library

/-! ### The symbolic run -/

/-- The live names of every class, the number of births, and the names that died together
with the class they died in. -/
structure Symbolic where
  indices : List (List ObjectIndex)
  births : Nat
  deaths : List (Nat × ObjectIndex)
  deriving DecidableEq, Repr

def symbolicStep (symbolic : Symbolic) : RecordEvent → Option Symbolic
  | .birth i => do
    let objs ← symbolic.indices[i]?
    return ⟨symbolic.indices.set i (objs ++ [⟨true, symbolic.births % 2 ^ 32⟩]),
      symbolic.births + 1, symbolic.deaths⟩
  | .death i toFree => do
    let objs ← symbolic.indices[i]?
    let index ← objs[toFree]?
    return ⟨symbolic.indices.set i (swapRemove objs toFree), symbolic.births,
      symbolic.deaths ++ [(i, index)]⟩

def symbolicRun : List RecordEvent → Symbolic → Option Symbolic
  | [], symbolic => some symbolic
  | event :: rest, symbolic => (symbolicStep symbolic event).bind (symbolicRun rest)

/-- Before the recording, every object is named by its own position. -/
def symbolicStart (lengths : List Nat) : Symbolic :=
  ⟨lengths.map fun length => (List.range length).map fun i => ⟨false, i⟩, 0, []⟩

theorem symbolicRun_append (first second : List RecordEvent) (symbolic : Symbolic) :
    symbolicRun (first ++ second) symbolic =
      (symbolicRun first symbolic).bind (symbolicRun second) := by
  induction first generalizing symbolic with
  | nil => rfl
  | cons event rest inductionHypothesis =>
    rw [List.cons_append, symbolicRun, symbolicRun]
    cases symbolicStep symbolic event with
    | none => rfl
    | some next => exact inductionHypothesis next

/-- Everything one symbolic step can do. -/
theorem symbolicStep_cases {symbolic next : Symbolic} {event : RecordEvent}
    (step : symbolicStep symbolic event = some next) :
    (∃ i objs, event = .birth i ∧ symbolic.indices[i]? = some objs ∧
      next = ⟨symbolic.indices.set i (objs ++ [⟨true, symbolic.births % 2 ^ 32⟩]),
        symbolic.births + 1, symbolic.deaths⟩) ∨
    (∃ i toFree objs index, event = .death i toFree ∧ symbolic.indices[i]? = some objs ∧
      objs[toFree]? = some index ∧
      next = ⟨symbolic.indices.set i (swapRemove objs toFree), symbolic.births,
        symbolic.deaths ++ [(i, index)]⟩) := by
  cases event with
  | birth i =>
    simp only [symbolicStep, Option.bind_eq_bind, Option.bind_eq_some_iff, Option.pure_def,
      Option.some.injEq] at step
    obtain ⟨objs, found, rfl⟩ := step
    exact Or.inl ⟨i, objs, rfl, found, rfl⟩
  | death i toFree =>
    simp only [symbolicStep, Option.bind_eq_bind, Option.bind_eq_some_iff, Option.pure_def,
      Option.some.injEq] at step
    obtain ⟨objs, found, index, picked, rfl⟩ := step
    exact Or.inr ⟨i, toFree, objs, index, rfl, found, picked, rfl⟩

/-! ### Where names stand -/

/-- The number of places at which the symbolic state mentions a name. -/
def Symbolic.places (symbolic : Symbolic) (index : ObjectIndex) : Nat :=
  (symbolic.deaths.map Prod.snd).count index + symbolic.indices.flatten.count index

/-- The shape every recording keeps: an old object stands at or left of its old position,
inside its old class, and every birth stands in exactly one place. -/
structure Placed (lengths : List Nat) (symbolic : Symbolic) : Prop where
  classes : symbolic.indices.length = lengths.length
  survivor : ∀ (i : Nat) objs (slot old : Nat), symbolic.indices[i]? = some objs →
    objs[slot]? = some ⟨false, old⟩ → slot ≤ old ∧ ∃ length, lengths[i]? = some length ∧
      old < length
  dead : ∀ (i old : Nat), (i, (⟨false, old⟩ : ObjectIndex)) ∈ symbolic.deaths →
    ∃ length, lengths[i]? = some length ∧ old < length
  deadClass : ∀ death ∈ symbolic.deaths, death.1 < lengths.length
  once : symbolic.births ≤ 2 ^ 32 → ∀ k,
    symbolic.places ⟨true, k⟩ = if k < symbolic.births then 1 else 0

theorem placed_start (lengths : List Nat) : Placed lengths (symbolicStart lengths) := by
  refine ⟨List.length_map _, ?_, ?_, ?_, ?_⟩
  · intro i objs slot old found standing
    rw [symbolicStart, List.getElem?_map] at found
    obtain ⟨length, lengthEq, rfl⟩ := Option.map_eq_some_iff.mp found
    rw [List.getElem?_map] at standing
    obtain ⟨position, positionEq, same⟩ := Option.map_eq_some_iff.mp standing
    obtain ⟨bound, rfl⟩ := List.getElem?_eq_some_iff.mp positionEq
    simp only [ObjectIndex.mk.injEq, List.getElem_range, true_and] at same
    rw [List.length_range] at bound
    exact ⟨Nat.le_of_eq same, length, lengthEq, same ▸ bound⟩
  · intro i old member
    cases member
  · intro death member
    cases member
  · intro _ k
    have absent : (⟨true, k⟩ : ObjectIndex) ∉ (symbolicStart lengths).indices.flatten := by
      simp [symbolicStart]
    rw [Symbolic.places, List.count_eq_zero_of_not_mem absent]
    rfl

theorem placed_birth {lengths : List Nat} {symbolic : Symbolic}
    (placed : Placed lengths symbolic) {i : Nat} {objs : List ObjectIndex}
    (found : symbolic.indices[i]? = some objs) :
    Placed lengths ⟨symbolic.indices.set i (objs ++ [⟨true, symbolic.births % 2 ^ 32⟩]),
      symbolic.births + 1, symbolic.deaths⟩ := by
  refine ⟨(List.length_set ..).trans placed.classes, ?_, placed.dead, placed.deadClass, ?_⟩
  · intro j others slot old othersEq standing
    rcases getElem?_set_cases othersEq with ⟨rfl, rfl⟩ | ⟨_, othersOld⟩
    · rcases getElem?_concat_cases standing with inside | ⟨_, new⟩
      · exact placed.survivor j objs slot old found inside
      · cases new
    · exact placed.survivor j others slot old othersOld standing
  · intro small k
    have before := placed.once (Nat.le_of_succ_le small) k
    have wrapped : symbolic.births % 2 ^ 32 = symbolic.births := Nat.mod_eq_of_lt small
    have moved := count_flatten_set found (objs ++ [⟨true, symbolic.births % 2 ^ 32⟩]) ⟨true, k⟩
    rw [List.count_append, List.count_singleton, wrapped] at moved
    simp only [Symbolic.places, wrapped] at before moved ⊢
    by_cases new : k = symbolic.births
    · subst new
      simp at moved before ⊢
      omega
    · have other : ((⟨true, symbolic.births⟩ : ObjectIndex) == ⟨true, k⟩) = false := by
        simp [Ne.symm new]
      have order : (k < symbolic.births + 1) = (k < symbolic.births) := by
        rw [eq_iff_iff]
        omega
      rw [other] at moved
      simp only [order]
      simp at moved
      omega

theorem placed_death {lengths : List Nat} {symbolic : Symbolic}
    (placed : Placed lengths symbolic) {i toFree : Nat} {objs : List ObjectIndex}
    {index : ObjectIndex} (found : symbolic.indices[i]? = some objs)
    (picked : objs[toFree]? = some index) :
    Placed lengths ⟨symbolic.indices.set i (swapRemove objs toFree), symbolic.births,
      symbolic.deaths ++ [(i, index)]⟩ := by
  refine ⟨(List.length_set ..).trans placed.classes, ?_, ?_, ?_, ?_⟩
  · intro j others slot old othersEq standing
    rcases getElem?_set_cases othersEq with ⟨rfl, rfl⟩ | ⟨_, othersOld⟩
    · rw [getElem?_swapRemove] at standing
      split at standing
      · rename_i inside
        split at standing
        · rw [List.getLast?_eq_getElem?] at standing
          obtain ⟨moved, owner⟩ := placed.survivor j objs _ old found standing
          exact ⟨by omega, owner⟩
        · exact placed.survivor j objs slot old found standing
      · cases standing
    · exact placed.survivor j others slot old othersOld standing
  · intro j old member
    rcases List.mem_append.mp member with earlier | new
    · exact placed.dead j old earlier
    · rw [List.mem_singleton, Prod.mk.injEq] at new
      obtain ⟨rfl, rfl⟩ := new
      exact (placed.survivor j objs toFree old found picked).2
  · intro death member
    rcases List.mem_append.mp member with earlier | new
    · exact placed.deadClass death earlier
    · rw [List.mem_singleton.mp new, ← placed.classes]
      exact (List.getElem?_eq_some_iff.mp found).1
  · intro small k
    have before := placed.once small k
    have moved := count_flatten_set found (swapRemove objs toFree) ⟨true, k⟩
    have removed := (perm_swapRemove picked).count_eq ⟨true, k⟩
    rw [List.count_cons] at removed
    simp only [Symbolic.places, List.map_append, List.map_cons, List.map_nil, List.count_append,
      List.count_singleton] at before ⊢
    omega

theorem placed_step {lengths : List Nat} {symbolic next : Symbolic}
    (placed : Placed lengths symbolic) {event : RecordEvent}
    (step : symbolicStep symbolic event = some next) : Placed lengths next := by
  obtain ⟨i, objs, _, found, rfl⟩ | ⟨i, toFree, objs, index, _, found, picked, rfl⟩ :=
    symbolicStep_cases step
  · exact placed_birth placed found
  · exact placed_death placed found picked

theorem placed_run {lengths : List Nat} {trace : List RecordEvent} {symbolic next : Symbolic}
    (placed : Placed lengths symbolic) (run : symbolicRun trace symbolic = some next) :
    Placed lengths next := by
  induction trace generalizing symbolic with
  | nil =>
    cases run
    exact placed
  | cons event rest inductionHypothesis =>
    obtain ⟨middle, step, run⟩ := Option.bind_eq_some_iff.mp run
    exact inductionHypothesis (placed_step placed step) run

/-! ### Later states extend earlier ones -/

theorem symbolicRun_deaths {trace : List RecordEvent} {symbolic next : Symbolic}
    (run : symbolicRun trace symbolic = some next) : symbolic.deaths <+: next.deaths := by
  induction trace generalizing symbolic with
  | nil =>
    cases run
    exact List.prefix_refl _
  | cons event rest inductionHypothesis =>
    obtain ⟨middle, step, run⟩ := Option.bind_eq_some_iff.mp run
    refine List.IsPrefix.trans ?_ (inductionHypothesis run)
    obtain ⟨i, objs, _, _, rfl⟩ | ⟨i, toFree, objs, index, _, _, _, rfl⟩ :=
      symbolicStep_cases step
    · exact List.prefix_refl _
    · exact List.prefix_append _ _

theorem symbolicRun_births {trace : List RecordEvent} {symbolic next : Symbolic}
    (run : symbolicRun trace symbolic = some next) : symbolic.births ≤ next.births := by
  induction trace generalizing symbolic with
  | nil =>
    cases run
    exact Nat.le_refl _
  | cons event rest inductionHypothesis =>
    obtain ⟨middle, step, run⟩ := Option.bind_eq_some_iff.mp run
    refine Nat.le_trans ?_ (inductionHypothesis run)
    obtain ⟨i, objs, _, _, rfl⟩ | ⟨i, toFree, objs, index, _, _, _, rfl⟩ :=
      symbolicStep_cases step
    · exact Nat.le_succ _
    · exact Nat.le_refl _

/-- Births and deaths of a run add up to its length. -/
theorem symbolicRun_length {trace : List RecordEvent} {symbolic next : Symbolic}
    (run : symbolicRun trace symbolic = some next) :
    next.births + next.deaths.length =
      symbolic.births + symbolic.deaths.length + trace.length := by
  induction trace generalizing symbolic with
  | nil =>
    cases run
    rfl
  | cons event rest inductionHypothesis =>
    obtain ⟨middle, step, run⟩ := Option.bind_eq_some_iff.mp run
    rw [inductionHypothesis run, List.length_cons]
    obtain ⟨i, objs, _, _, rfl⟩ | ⟨i, toFree, objs, index, _, _, _, rfl⟩ :=
      symbolicStep_cases step
    · simp only
      omega
    · simp only [List.length_append, List.length_singleton]
      omega

/-! ### Names stand for pointers -/

/-- The pointer a name of class `i` stands for, given the vectors before the round and the
pointers born in it. -/
def pointerOf (live : List (List Ptr)) (born : List Ptr) (i : Nat) : ObjectIndex → Ptr
  | ⟨false, old⟩ => (live.getD i []).getD old nullptr
  | ⟨true, k⟩ => born.getD k nullptr

/-- Another birth does not change what the names so far stand for. -/
theorem pointerOf_concat (live : List (List Ptr)) (born : List Ptr) (p : Ptr) (i : Nat)
    (index : ObjectIndex) (known : index.born = true → index.index < born.length) :
    pointerOf live (born ++ [p]) i index = pointerOf live born i index := by
  obtain ⟨isBorn, k⟩ := index
  cases isBorn with
  | false => rfl
  | true =>
    have bound : k < born.length := known rfl
    simp only [pointerOf, List.getD_eq_getElem?_getD, List.getElem?_append_left bound]

/-- A name that stands somewhere names a birth that has happened. -/
theorem Placed.index_lt {lengths : List Nat} {symbolic : Symbolic}
    (placed : Placed lengths symbolic) (small : symbolic.births ≤ 2 ^ 32) {k : Nat}
    (standing : 0 < symbolic.places ⟨true, k⟩) : k < symbolic.births := by
  rw [placed.once small k] at standing
  by_contra late
  rw [if_neg late] at standing
  exact Nat.lt_irrefl 0 standing

theorem Symbolic.places_pos_of_live {symbolic : Symbolic} {i slot : Nat}
    {objs : List ObjectIndex} {index : ObjectIndex} (found : symbolic.indices[i]? = some objs)
    (standing : objs[slot]? = some index) : 0 < symbolic.places index := by
  have member : index ∈ symbolic.indices.flatten :=
    List.mem_flatten.mpr ⟨objs, List.mem_of_getElem? found, List.mem_of_getElem? standing⟩
  exact Nat.lt_of_lt_of_le (List.count_pos_iff.mpr member) (Nat.le_add_left _ _)

theorem Symbolic.places_pos_of_dead {symbolic : Symbolic} {j i : Nat} {index : ObjectIndex}
    (found : symbolic.deaths[j]? = some (i, index)) : 0 < symbolic.places index := by
  have member : index ∈ symbolic.deaths.map Prod.snd :=
    List.mem_map.mpr ⟨(i, index), List.mem_of_getElem? found, rfl⟩
  exact Nat.lt_of_lt_of_le (List.count_pos_iff.mpr member) (Nat.le_add_right _ _)

end Fleetbench.Tcmalloc
