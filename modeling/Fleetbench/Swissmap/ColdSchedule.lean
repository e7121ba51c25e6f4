/-
This file models `LookupHit_Cold` and the two `BM_SWISSMAP_InsertMany` benchmarks
for cold sets, and proves that each of their sweeps visits every element of
every set once. So all lookups find their key, and each sweep of the insertions
builds all sets again.
-/

import Fleetbench.Swissmap.Transpose
import Fleetbench.Library.Sweep

namespace Fleetbench.Swissmap

open Library

variable {Key : Type} [DecidableEq Key]

/-! ### The benchmarks -/

/-- A set is accessed with a key. -/
structure Access (Key : Type) where
  index : Nat
  before : Finset Key
  key : Key

structure VisitState (Key : Type) where
  sets : List (Finset Key)
  accesses : List (Access Key)

/-- The body of the inner loop, for what is done to a set. An index out of bounds is an error. -/
def visit (operate : Finset Key → Key → Finset Key) (keys : List Key) (i : Nat)
    (state : VisitState Key) (j : Nat) : Option (VisitState Key) := do
  let set ← state.sets[j]?
  let key ← keys[i * state.sets.length + j]?
  return ⟨state.sets.set j (operate set key), state.accesses ++ [⟨j, set, key⟩]⟩

/-- The inner loop, for the sets that have an element `i`. -/
def visitRound (operate : Finset Key → Key → Finset Key) (keys : List Key)
    (nSetsOfSize : List Nat) (i : Nat) (state : VisitState Key) : Option (VisitState Key) := do
  let count ← nSetsOfSize[i + 1]?
  (List.range count).foldlM (visit operate keys i) state

/-- What `BM_SWISSMAP_FindHit_Cold` does to a set. -/
def findHit (set : Finset Key) (_ : Key) : Finset Key := set

/-- What `BM_SWISSMAP_InsertHit_Cold` does to a set. -/
def insertHit (set : Finset Key) (key : Key) : Finset Key := insert key set

/-- `LookupHit_Cold`, for a number of rounds: those of the warm-up and those that `KeepRunningBatch`
admits. -/
def lookupHitCold (lookup : Finset Key → Key → Finset Key) (sets : List (Finset Key))
    (keys : List Key) (budget : Nat) : Option (VisitState Key) :=
  sweep (getLargestSetSize sets) id (visitRound lookup keys (getNumSetsOfSize sets)) budget 0
    ⟨sets, []⟩

/-- `BM_SWISSMAP_InsertManyOrdered_Cold` and `BM_SWISSMAP_InsertManyUnordered_Cold`, which take
their keys from other functions. Each sweep begins with empty sets. -/
def insertManyCold (sets : List (Finset Key)) (keys : List Key) (budget : Nat) :
    Option (VisitState Key) :=
  sweep (getLargestSetSize sets) (fun state => { state with sets := state.sets.map fun _ => ∅ })
    (visitRound (fun set key => insert key set) keys (getNumSetsOfSize sets)) budget 0 ⟨sets, []⟩

/-! ### The schedule -/

/-- The keys that a set is accessed with, in order. -/
def keysOf (j : Nat) (accesses : List (Access Key)) : List Key :=
  (accesses.filter fun access => access.index = j).map (·.key)

/-- Each set is accessed with all its elements, once in each sweep. -/
def VisitsElements (elements : List (List Key)) (sweeps : Nat) (accesses : List (Access Key)) :
    Prop :=
  ∀ j row, elements[j]? = some row → keysOf j accesses = (List.replicate sweeps row).flatten

/-- The schedule that the keys and the numbers of sets make. -/
structure ColdSchedule (sets : List (Finset Key)) (elements : List (List Key)) (keys : List Key) :
    Prop where
  element : ∀ i < getLargestSetSize sets, ∃ count, (getNumSetsOfSize sets)[i + 1]? = some count ∧
    ∀ j < count, ∃ row key, elements[j]? = some row ∧ row[i]? = some key ∧
      keys[i * sets.length + j]? = some key
  hits : ∀ lookup, lookup = findHit ∨ lookup = insertHit → ∀ budget, ∃ final,
    lookupHitCold lookup sets keys budget = some final ∧ ∀ access ∈ final.accesses,
      sets[access.index]? = some access.before ∧ access.key ∈ access.before
  lookups : ∀ lookup, lookup = findHit ∨ lookup = insertHit → ∀ sweeps, ∃ final,
    lookupHitCold lookup sets keys (sweeps * getLargestSetSize sets) = some final ∧
      VisitsElements elements sweeps final.accesses
  rebuilds : ∀ sweeps, ∃ final,
    insertManyCold sets keys (sweeps * getLargestSetSize sets) = some final ∧
      final.sets = sets ∧ VisitsElements elements sweeps final.accesses
  batches : ∃ batches,
    (List.range (getLargestSetSize sets)).mapM (fun i => (getNumSetsOfSize sets)[i + 1]?) =
        some batches ∧
      batches.sum = (sets.map Finset.card).sum

/-! ### One round -/

/-- A row of the table of elements, with its index, as a round accesses it. -/
def accessOf (set : List Key → Finset Key) (i : Nat) (entry : List Key × Nat) :
    Option (Access Key) :=
  (entry.1[i]?).map fun key => ⟨entry.2, set entry.1, key⟩

/-- What a round makes of the set of a row. -/
def visited (operate : Finset Key → Key → Finset Key) (set : List Key → Finset Key) (i : Nat)
    (row : List Key) : Finset Key :=
  match row[i]? with
  | some key => operate (set row) key
  | none => set row

theorem exists_index_of_mem_drop {Item : Type} {items : List Item} {item : Item} {count : Nat}
    (member : item ∈ items.drop count) : ∃ j, count ≤ j ∧ items[j]? = some item := by
  obtain ⟨j, found⟩ := List.mem_iff_getElem?.mp member
  rw [List.getElem?_drop] at found
  exact ⟨count + j, Nat.le_add_right count j, found⟩

section

omit [DecidableEq Key]

variable {elements : List (List Key)} {keys : List Key} {i count : Nat}
  {operate : Finset Key → Key → Finset Key} {set : List Key → Finset Key}

theorem visit_eq {front rest : List (Finset Key)} {current : Finset Key} {key : Key}
    (accesses : List (Access Key))
    (isKey : keys[i * (front ++ current :: rest).length + front.length]? = some key) :
    visit operate keys i ⟨front ++ current :: rest, accesses⟩ front.length =
      some ⟨front ++ operate current key :: rest,
        accesses ++ [⟨front.length, current, key⟩]⟩ := by
  rw [visit]
  simp only [List.getElem?_append_right (Nat.le_refl front.length), Nat.sub_self,
    List.getElem?_cons_zero, isKey, Option.bind_eq_bind, Option.bind_some,
    List.set_append_right _ _ (Nat.le_refl front.length), List.set_cons_zero]
  rfl

/-- The inner loop visits the first rows, one after the other. -/
theorem foldlM_visit (bound : count ≤ elements.length)
    (scheduled : ∀ j row, elements[j]? = some row → j < count → ∃ key, row[i]? = some key ∧
      keys[i * elements.length + j]? = some key)
    (accesses : List (Access Key)) :
    (List.range count).foldlM (visit operate keys i) ⟨elements.map set, accesses⟩ =
      some ⟨(elements.take count).map (visited operate set i) ++ (elements.drop count).map set,
        accesses ++ (elements.zipIdx.take count).filterMap (accessOf set i)⟩ := by
  induction count with
  | zero => simp
  | succ count inductionHypothesis =>
    have earlier := inductionHypothesis (Nat.le_of_succ_le bound) fun j row found below =>
      scheduled j row found (Nat.lt_succ_of_lt below)
    have found : elements[count]? = some elements[count] := List.getElem?_eq_getElem bound
    obtain ⟨key, isElement, isKey⟩ := scheduled count _ found (Nat.lt_succ_self count)
    have length : ((elements.take count).map (visited operate set i)).length = count := by
      rw [List.length_map, List.length_take, min_eq_left (Nat.le_of_succ_le bound)]
    have taken : (elements.take (count + 1)).map (visited operate set i) =
        (elements.take count).map (visited operate set i) ++
          [operate (set elements[count]) key] := by
      rw [List.take_succ_eq_append_getElem bound, List.map_append, List.map_singleton, visited,
        isElement]
    have accessed : (elements.zipIdx.take (count + 1)).filterMap (accessOf set i) =
        (elements.zipIdx.take count).filterMap (accessOf set i) ++
          [⟨count, set elements[count], key⟩] := by
      rw [List.take_succ_eq_append_getElem (by rwa [List.length_zipIdx]), List.filterMap_append,
        List.getElem_zipIdx, Nat.zero_add]
      refine congrArg (_ ++ ·) ?_
      rw [List.filterMap_cons, accessOf, isElement]
      rfl
    have atPlace : ((elements.take count).map (visited operate set i) ++
        set elements[count] :: (elements.drop (count + 1)).map set).length = elements.length := by
      rw [List.length_append, length, List.length_cons, List.length_map, List.length_drop]
      omega
    have step := @visit_eq _ keys i operate ((elements.take count).map (visited operate set i))
      ((elements.drop (count + 1)).map set) (set elements[count]) key
      (accesses ++ (elements.zipIdx.take count).filterMap (accessOf set i))
      (by rwa [atPlace, length])
    rw [length] at step
    rw [foldlM_range_succ, earlier, Option.bind_some, List.drop_eq_getElem_cons bound,
      List.map_cons, step, taken, accessed, List.append_assoc, List.append_assoc]
    rfl

/-- A round visits all rows that have an element for it. -/
theorem visitRound_eq {nSetsOfSize : List Nat} (isCount : nSetsOfSize[i + 1]? = some count)
    (bound : count ≤ elements.length)
    (scheduled : ∀ j row, elements[j]? = some row → j < count → ∃ key, row[i]? = some key ∧
      keys[i * elements.length + j]? = some key)
    (short : ∀ j row, elements[j]? = some row → count ≤ j → row[i]? = none)
    (accesses : List (Access Key)) :
    visitRound operate keys nSetsOfSize i ⟨elements.map set, accesses⟩ =
      some ⟨elements.map (visited operate set i),
        accesses ++ elements.zipIdx.filterMap (accessOf set i)⟩ := by
  have others : (elements.drop count).map set =
      (elements.drop count).map (visited operate set i) := by
    refine List.map_congr_left fun row member => ?_
    obtain ⟨j, later, found⟩ := exists_index_of_mem_drop member
    rw [visited, short j row found later]
  have noOthers : (elements.zipIdx.drop count).filterMap (accessOf set i) = [] := by
    refine List.filterMap_eq_nil_iff.mpr fun entry member => ?_
    obtain ⟨j, later, found⟩ := exists_index_of_mem_drop member
    rw [List.getElem?_zipIdx] at found
    obtain ⟨row, isRow, rfl⟩ := Option.map_eq_some_iff.mp found
    rw [accessOf, short j row isRow later]
    rfl
  rw [visitRound, isCount, Option.bind_eq_bind, Option.bind_some, foldlM_visit bound scheduled,
    others, ← List.map_append, List.take_append_drop]
  conv_rhs => rw [← List.take_append_drop count elements.zipIdx, List.filterMap_append, noOthers,
    List.append_nil]

theorem keysOf_append (j : Nat) (first second : List (Access Key)) :
    keysOf j (first ++ second) = keysOf j first ++ keysOf j second := by
  rw [keysOf, List.filter_append, List.map_append]
  rfl

theorem keysOf_eq_nil {j : Nat} {accesses : List (Access Key)}
    (others : ∀ access ∈ accesses, access.index ≠ j) : keysOf j accesses = [] := by
  rw [keysOf, List.map_eq_nil_iff, List.filter_eq_nil_iff]
  simpa using others

theorem index_accesses {start : Nat} {access : Access Key}
    (member : access ∈ (elements.zipIdx start).filterMap (accessOf set i)) :
    start ≤ access.index := by
  obtain ⟨entry, isEntry, isAccess⟩ := List.mem_filterMap.mp member
  obtain ⟨key, -, rfl⟩ := Option.map_eq_some_iff.mp isAccess
  exact List.le_snd_of_mem_zipIdx isEntry

/-- The keys of a set in a round. -/
theorem keysOf_accessOf {start j : Nat} {row : List Key} (found : elements[j]? = some row) :
    keysOf (start + j) ((elements.zipIdx start).filterMap (accessOf set i)) =
      (row[i]?).toList := by
  induction elements generalizing start j with
  | nil => cases found
  | cons first rest inductionHypothesis =>
    have split : ((first :: rest).zipIdx start).filterMap (accessOf set i) =
        (accessOf set i (first, start)).toList ++
          (rest.zipIdx (start + 1)).filterMap (accessOf set i) := by
      rw [List.zipIdx_cons, List.filterMap_cons]
      cases accessOf set i (first, start) <;> rfl
    rw [split, keysOf_append]
    cases j with
    | zero =>
      cases found
      rw [Nat.add_zero, keysOf_eq_nil fun access member => Nat.ne_of_gt (index_accesses member),
        List.append_nil, accessOf]
      dsimp only
      cases row[i]? with
      | none => rfl
      | some key => simp [keysOf]
    | succ j =>
      have later := @inductionHypothesis (start + 1) j found
      rw [Nat.add_right_comm] at later
      rw [← Nat.add_assoc, later, keysOf_eq_nil, List.nil_append]
      intro access member
      obtain ⟨key, -, rfl⟩ := Option.map_eq_some_iff.mp (Option.mem_toList.mp member)
      show start ≠ start + j + 1
      omega

end

/-! ### All rounds -/

/-- The keys of the rounds are those of the elements, and no set has more elements than there are
rounds. -/
structure Scheduled (elements : List (List Key)) (keys : List Key) (nSetsOfSize : List Nat)
    (rounds : Nat) : Prop where
  round : ∀ i < rounds, ∃ count, nSetsOfSize[i + 1]? = some count ∧ count ≤ elements.length ∧
    (∀ j row, elements[j]? = some row → j < count → ∃ key, row[i]? = some key ∧
      keys[i * elements.length + j]? = some key) ∧
    ∀ j row, elements[j]? = some row → count ≤ j → row[i]? = none
  short : ∀ row ∈ elements, row.length ≤ rounds

/-- The keys that the sets have been accessed with after some rounds. -/
def Visited (elements : List (List Key)) (rounds done : Nat) (accesses : List (Access Key)) :
    Prop :=
  ∀ j row, elements[j]? = some row →
    keysOf j accesses = (List.replicate (done / rounds) row).flatten ++ row.take (done % rounds)

section

variable {elements : List (List Key)} {keys : List Key} {nSetsOfSize : List Nat} {rounds : Nat}
  (scheduled : Scheduled elements keys nSetsOfSize rounds)

include scheduled

omit [DecidableEq Key] in
theorem Scheduled.visitRound {i : Nat} (inside : i < rounds)
    (operate : Finset Key → Key → Finset Key) (set : List Key → Finset Key)
    (accesses : List (Access Key)) :
    visitRound operate keys nSetsOfSize i ⟨elements.map set, accesses⟩ =
      some ⟨elements.map (visited operate set i),
        accesses ++ elements.zipIdx.filterMap (accessOf set i)⟩ := by
  obtain ⟨count, isCount, bound, present, absent⟩ := scheduled.round i inside
  exact visitRound_eq isCount bound present absent accesses

omit [DecidableEq Key] in
theorem Scheduled.visited_succ (positive : rounds ≠ 0) {done : Nat}
    {accesses : List (Access Key)} (earlier : Visited elements rounds done accesses)
    (set : List Key → Finset Key) :
    Visited elements rounds (done + 1)
      (accesses ++ elements.zipIdx.filterMap (accessOf set (done % rounds))) := by
  intro j row found
  have inRound := @keysOf_accessOf _ elements (done % rounds) set 0 j row found
  rw [Nat.zero_add] at inRound
  have next := next_mod positive done
  rw [keysOf_append, earlier j row found, inRound, List.append_assoc, ← List.take_add_one]
  split at next
  · rename_i last
    have short := scheduled.short row (List.mem_of_getElem? found)
    rw [last, ← next, Nat.succ_div_of_mod_eq_zero next.symm, List.take_of_length_le short,
      List.replicate_succ', List.flatten_append, List.flatten_singleton, List.take_zero,
      List.append_nil]
  · rw [← next, Nat.succ_div_of_mod_ne_zero (next ▸ Nat.succ_ne_zero _)]

omit [DecidableEq Key] scheduled in
theorem visitsElements_of_visited (positive : rounds ≠ 0) {sweeps : Nat}
    {accesses : List (Access Key)}
    (all : Visited elements rounds (sweeps * rounds) accesses) :
    VisitsElements elements sweeps accesses := by
  intro j row found
  rw [all j row found, Nat.mul_div_cancel _ (Nat.pos_of_ne_zero positive), Nat.mul_mod_left,
    List.take_zero, List.append_nil]

omit scheduled in
/-- Lookups of keys that are present leave the sets as they are. -/
theorem visited_hit {lookup : Finset Key → Key → Finset Key}
    (isLookup : lookup = findHit ∨ lookup = insertHit) (i : Nat) (row : List Key) :
    visited lookup List.toFinset i row = row.toFinset := by
  rw [visited]
  cases found : row[i]? with
  | none => rfl
  | some key =>
    rcases isLookup with rfl | rfl
    · rfl
    · exact Finset.insert_eq_of_mem (List.mem_toFinset.mpr (List.mem_of_getElem? found))

omit scheduled in
/-- Each round of insertions adds the next element. -/
theorem visited_insert (i : Nat) (row : List Key) :
    visited (fun set key => insert key set) (fun row => (row.take i).toFinset) i row =
      (row.take (i + 1)).toFinset := by
  rw [visited, List.take_add_one]
  cases row[i]? with
  | none => rw [Option.toList_none, List.append_nil]
  | some key =>
    show insert key _ = _
    rw [Option.toList_some, List.toFinset_append, Finset.union_comm]
    rfl

/-- All accesses are to present keys. -/
def AllHit (elements : List (List Key)) (accesses : List (Access Key)) : Prop :=
  ∀ access ∈ accesses, ∃ row, elements[access.index]? = some row ∧
    access.before = row.toFinset ∧ access.key ∈ row

omit scheduled in
theorem allHit_append {accesses : List (Access Key)} (earlier : AllHit elements accesses)
    (i : Nat) :
    AllHit elements (accesses ++ elements.zipIdx.filterMap (accessOf List.toFinset i)) := by
  refine List.forall_mem_append.mpr ⟨earlier, fun access member => ?_⟩
  obtain ⟨⟨row, j⟩, isRow, isAccess⟩ := List.mem_filterMap.mp member
  obtain ⟨key, isKey, rfl⟩ := Option.map_eq_some_iff.mp isAccess
  exact ⟨row, List.mem_zipIdx_iff_getElem?.mp isRow, rfl, List.mem_of_getElem? isKey⟩

omit [DecidableEq Key] scheduled in
theorem visited_zero : Visited elements rounds 0 [] := by
  intro j row _
  rw [Nat.zero_div, Nat.zero_mod, List.replicate_zero, List.take_zero]
  rfl

/-- What holds after a number of rounds of lookups. -/
structure LookedUp (elements : List (List Key)) (rounds done : Nat) (state : VisitState Key) :
    Prop where
  sets : state.sets = elements.map List.toFinset
  hits : AllHit elements state.accesses
  visits : Visited elements rounds done state.accesses

theorem Scheduled.lookups (positive : rounds ≠ 0) {lookup : Finset Key → Key → Finset Key}
    (isLookup : lookup = findHit ∨ lookup = insertHit) (budget : Nat) : ∃ final,
      sweep rounds id (Swissmap.visitRound lookup keys nSetsOfSize) budget 0
          ⟨elements.map List.toFinset, []⟩ = some final ∧
        LookedUp elements rounds budget final := by
  have step : ∀ done state, LookedUp elements rounds done state → ∃ next,
      Swissmap.visitRound lookup keys nSetsOfSize (done % rounds)
          (if done % rounds = 0 then id state else state) = some next ∧
        LookedUp elements rounds (done + 1) next := by
    rintro done ⟨sets, accesses⟩ ⟨rfl, hits, visits⟩
    have inside := Nat.mod_lt done (Nat.pos_of_ne_zero positive)
    have round := scheduled.visitRound inside lookup List.toFinset accesses
    refine ⟨_, by rwa [id_eq, ite_self], ?_, allHit_append hits (done % rounds),
      scheduled.visited_succ positive visits List.toFinset⟩
    exact List.map_congr_left fun row _ => visited_hit isLookup _ row
  obtain ⟨final, runs, ends⟩ := @sweep_invariant _ _ _ _ _ positive step budget 0
    ⟨elements.map List.toFinset, []⟩ ⟨rfl, fun _ none => (nomatch none), visited_zero⟩
  rw [Nat.zero_mod] at runs
  rw [Nat.zero_add] at ends
  exact ⟨final, runs, ends⟩

/-- What holds after a number of rounds of insertions. Between sweeps all sets are complete. -/
structure Inserted (elements : List (List Key)) (rounds done : Nat) (state : VisitState Key) :
    Prop where
  sets : state.sets = elements.map fun row =>
    (if done % rounds = 0 then row else row.take (done % rounds)).toFinset
  visits : Visited elements rounds done state.accesses

theorem Scheduled.inserts (positive : rounds ≠ 0) (budget : Nat) : ∃ final,
    sweep rounds (fun state => { state with sets := state.sets.map fun _ => ∅ })
        (Swissmap.visitRound (fun set key => insert key set) keys nSetsOfSize) budget 0
        ⟨elements.map List.toFinset, []⟩ = some final ∧
      Inserted elements rounds budget final := by
  have step : ∀ done state, Inserted elements rounds done state → ∃ next,
      Swissmap.visitRound (fun set key => insert key set) keys nSetsOfSize (done % rounds)
          (if done % rounds = 0 then { state with sets := state.sets.map fun _ => ∅ } else state) =
            some next ∧
        Inserted elements rounds (done + 1) next := by
    rintro done ⟨sets, accesses⟩ ⟨isSets, visits⟩
    dsimp only at isSets visits
    have inside := Nat.mod_lt done (Nat.pos_of_ne_zero positive)
    have prepared : (if done % rounds = 0 then
        (⟨sets.map fun _ => ∅, accesses⟩ : VisitState Key) else ⟨sets, accesses⟩) =
          ⟨elements.map fun row => (row.take (done % rounds)).toFinset, accesses⟩ := by
      split
      · rename_i first
        rw [isSets, List.map_map, first]
        rfl
      · rename_i later
        simp only [isSets, if_neg later]
    have round := scheduled.visitRound inside (fun set key => insert key set)
      (fun row => (row.take (done % rounds)).toFinset) accesses
    refine ⟨_, by rwa [prepared], ?_, scheduled.visited_succ positive visits _⟩
    refine List.map_congr_left fun row member => ?_
    have next := next_mod positive done
    rw [visited_insert, ← next]
    split
    · rename_i last
      rw [last, List.take_of_length_le (scheduled.short row member)]
      rfl
    · rfl
  obtain ⟨final, runs, ends⟩ := @sweep_invariant _ _ _ _ _ positive step budget 0
    ⟨elements.map List.toFinset, []⟩ ⟨by simp, visited_zero⟩
  rw [Nat.zero_mod] at runs
  rw [Nat.zero_add] at ends
  exact ⟨final, runs, ends⟩

end

/-! ### The schedule of the benchmarks -/

section

variable {sets : List (Finset Key)} {elements : List (List Key)}
  (vectors : List.Forall₂ IsVectorOf sets elements)

include vectors

theorem map_toFinset_elements : elements.map List.toFinset = sets := by
  induction vectors with
  | nil => rfl
  | cons isVector _ inductionHypothesis =>
    rw [List.map_cons, isVector.toFinset, inductionHypothesis]

theorem exists_set {j : Nat} {row : List Key} (found : elements[j]? = some row) :
    ∃ set, sets[j]? = some set ∧ IsVectorOf set row := by
  obtain ⟨bound, rfl⟩ := List.getElem?_eq_some_iff.mp found
  have bound' := bound.trans_eq vectors.length_eq.symm
  exact ⟨sets[j], List.getElem?_eq_getElem bound', vectors.get bound' bound⟩

variable (sorted : SortedBySize sets)

include sorted

theorem length_row_le {row : List Key} (member : row ∈ elements) :
    row.length ≤ getLargestSetSize sets := by
  obtain ⟨j, found⟩ := List.mem_iff_getElem?.mp member
  obtain ⟨set, isSet, isVector⟩ := exists_set vectors found
  rw [isVector.length_eq]
  exact card_le_largest sorted (List.mem_of_getElem? isSet)

/-- The transposed keys are those that the rounds need. -/
theorem exists_scheduled (nonempty : sets ≠ []) (filler : Key) : ∃ keys,
    transpose filler elements = some keys ∧
      Scheduled elements keys (getNumSetsOfSize sets) (getLargestSetSize sets) := by
  obtain ⟨front, isFront, frontLength⟩ : ∃ front,
      elements.head? = some front ∧ front.length = getLargestSetSize sets := by
    cases vectors with
    | nil => exact absurd rfl nonempty
    | cons isVector _ => exact ⟨_, rfl, isVector.length_eq⟩
  obtain ⟨keys, transposed, -, places⟩ := transpose_spec filler isFront fun row member =>
    (length_row_le vectors sorted member).trans_eq frontLength.symm
  refine ⟨keys, transposed, fun i inside => ?_, fun row member =>
    length_row_le vectors sorted member⟩
  have counted {j : Nat} {row : List Key} (found : elements[j]? = some row) :
      j < (sets.takeWhile fun set => i + 1 ≤ set.card).length ↔ i < row.length := by
    obtain ⟨set, isSet, isVector⟩ := exists_set vectors found
    rw [isVector.length_eq]
    exact lt_length_takeWhile_iff sorted isSet
  refine ⟨_, getElem?_getNumSetsOfSize (Nat.succ_le_of_lt inside), ?_,
    fun j row found below => ?_, fun j row found above => ?_⟩
  · rw [← vectors.length_eq]
    exact (List.takeWhile_prefix _).length_le
  · have isElement := List.getElem?_eq_getElem ((counted found).mp below)
    refine ⟨_, isElement, ?_⟩
    rw [places j row i found (inside.trans_eq frontLength.symm), isElement, Option.getD_some]
  · refine List.getElem?_eq_none (not_lt.mp fun long => ?_)
    exact absurd ((counted found).mpr long) (not_lt_of_ge above)

end

/-- Without elements, nothing is visited. -/
theorem coldSchedule_of_empty {sets : List (Finset Key)} {elements : List (List Key)}
    {keys : List Key} (sorted : SortedBySize sets) (empty : getLargestSetSize sets = 0)
    (vectors : List.Forall₂ IsVectorOf sets elements) : ColdSchedule sets elements keys := by
  have visits (sweeps : Nat) : VisitsElements elements sweeps [] := by
    intro j row found
    have short := length_row_le vectors sorted (List.mem_of_getElem? found)
    rw [List.eq_nil_of_length_eq_zero (Nat.le_zero.mp (short.trans_eq empty)),
      List.flatten_replicate_nil]
    rfl
  refine ⟨fun i inside => ?_, fun lookup _ budget => ⟨⟨sets, []⟩, ?_, fun _ none => nomatch none⟩,
    fun lookup _ sweeps => ⟨⟨sets, []⟩, ?_, visits sweeps⟩,
    fun sweeps => ⟨⟨sets, []⟩, ?_, rfl, visits sweeps⟩, sum_batches sorted⟩
  · rw [empty] at inside
    exact absurd inside (Nat.not_lt_zero i)
  · rw [lookupHitCold, empty]
    cases budget <;> rfl
  · rw [lookupHitCold, empty]
    rfl
  · rw [insertManyCold, empty]
    rfl

end Fleetbench.Swissmap
