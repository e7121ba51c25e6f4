/-
This file models the benchmarks that look for keys which are not there, or insert
them: `FindMiss_Cold`, `BM_SWISSMAP_FindMiss_Hot` and `BM_SWISSMAP_InsertMiss_Hot`.

The keys of the sets have their second highest bit set, and those that are looked
for do not. Where insertions are undone decides whether all of them are misses:
the cold benchmark erases every key before it goes on to the next, the hot one
only erases all keys of a batch, so that a key that was drawn twice is found.
-/

import Fleetbench.Swissmap.HotBatches
import Mathlib.Algebra.Group.Action.Defs

namespace Fleetbench.Swissmap

open Library

/-! ### Random keys -/

/-- For what `RandomNonSpecial` draws. -/
def randomExistent (draw : UInt32) : UInt32 := draw ||| (1 : UInt32) <<< 30

def randomNonexistent (draw : UInt32) : UInt32 := draw &&& ~~~((1 : UInt32) <<< 30)

/-- The second highest bit is set. -/
def Existent (key : UInt32) : Prop := key.toBitVec.getLsbD 30 = true

theorem existent_randomExistent (draw : UInt32) : Existent (randomExistent draw) := by
  have bit : ((1 : UInt32) <<< 30).toBitVec.getLsbD 30 = true := by decide
  rw [Existent, randomExistent, UInt32.toBitVec_or, BitVec.getLsbD_or, bit, Bool.or_true]

theorem not_existent_randomNonexistent (draw : UInt32) : ¬ Existent (randomNonexistent draw) := by
  have bit : (~~~((1 : UInt32) <<< 30)).toBitVec.getLsbD 30 = false := by decide
  rw [Existent, randomNonexistent, UInt32.toBitVec_and, BitVec.getLsbD_and, bit, Bool.and_false]
  exact Bool.false_ne_true

theorem randomExistent_of_existent {key : UInt32} (existent : Existent key) :
    randomExistent key = key := by
  have bits : ∀ i : Fin 32, ((1 : UInt32) <<< 30).toBitVec.getLsbD i = true → i.val = 30 := by
    decide
  refine UInt32.toBitVec_inj.mp (BitVec.eq_of_getLsbD_eq fun i below => ?_)
  rw [randomExistent, UInt32.toBitVec_or, BitVec.getLsbD_or]
  cases bit : ((1 : UInt32) <<< 30).toBitVec.getLsbD i with
  | false => rw [Bool.or_false]
  | true =>
    obtain rfl := bits ⟨i, below⟩ bit
    rw [Bool.or_true]
    exact existent.symm

/-- `GenerateSet` draws its keys by `RandomExistent`. -/
def Chance.existent (chance : Chance UInt32) : Chance UInt32 :=
  { chance with draws := chance.draws.map randomExistent }

section

variable {Key : Type} [DecidableEq Key] {drawn : Key → Prop}

theorem forall_mem_insert {filling : Filling Key} {elem : Key}
    (all : ∀ key ∈ filling.output, drawn key) (new : drawn elem) :
    ∀ key ∈ (filling.insert elem).output, drawn key := by
  intro key member
  rw [Filling.insert] at member
  split at member
  · exact all key member
  · rcases Finset.mem_insert.mp member with rfl | old
    · exact new
    · exact all key old

theorem forall_mem_fillUp {targetSetSize : Nat} {draws left : List Key}
    {filling filled : Filling Key} (all : ∀ key ∈ filling.output, drawn key)
    (draw : ∀ key ∈ draws, drawn key)
    (fills : fillUp targetSetSize draws filling = some (filled, left)) :
    (∀ key ∈ filled.output, drawn key) ∧ ∀ key ∈ left, drawn key := by
  induction draws generalizing filling with
  | nil =>
    rw [fillUp] at fills
    split at fills
    · cases fills
    · cases fills
      exact ⟨all, draw⟩
  | cons elem draws inductionHypothesis =>
    obtain ⟨new, later⟩ := List.forall_mem_cons.mp draw
    rw [fillUp] at fills
    split at fills
    · exact inductionHypothesis (forall_mem_insert all new) later fills
    · cases fills
      exact ⟨all, draw⟩

theorem forall_mem_growUntilResized {bucketCount : List Key → Nat} {density : Density}
    {buckets : Nat} {draws : List Key} {filling : Filling Key} {set : Finset Key}
    (lists : filling.Lists) (all : ∀ key ∈ filling.output, drawn key)
    (draw : ∀ key ∈ draws, drawn key)
    (grows : growUntilResized bucketCount density buckets draws filling = some set) :
    ∀ key ∈ set, drawn key := by
  induction draws generalizing filling with
  | nil => cases grows
  | cons elem draws inductionHypothesis =>
    obtain ⟨new, later⟩ := List.forall_mem_cons.mp draw
    rw [growUntilResized] at grows
    split at grows
    · exact inductionHypothesis lists all later grows
    · split at grows
      · cases grows
        split
        · rw [lists.toFinset]
          exact all
        · exact forall_mem_insert all new
      · exact inductionHypothesis (lists.insert elem) (forall_mem_insert all new) later grows

/-- A set holds nothing but what was drawn for it. -/
theorem forall_mem_generateSet {chance : Chance Key} {minSize : Nat} {density : Density}
    {set : Finset Key} (draw : ∀ key ∈ chance.draws, drawn key)
    (generates : generateSet chance minSize density = some set) : ∀ key ∈ set, drawn key := by
  obtain ⟨⟨filling, draws⟩, fills, grows⟩ := Option.bind_eq_some_iff.mp generates
  obtain ⟨lists, -⟩ := fillUp_lists ⟨List.nodup_nil, rfl⟩ fills
  obtain ⟨all, left⟩ := forall_mem_fillUp (fun key none => (nomatch none)) draw fills
  exact forall_mem_growUntilResized lists all left grows

theorem forall_mem_generateFrom {minSize minTotalSize totalSize : Nat} {density : Density}
    {chances : List (Chance Key)} {before sets : List (Finset Key)}
    (draw : ∀ chance ∈ chances, ∀ key ∈ chance.draws, drawn key)
    (all : ∀ set ∈ before, ∀ key ∈ set, drawn key)
    (generates : generateFrom minSize minTotalSize density chances totalSize before = some sets) :
    ∀ set ∈ sets, ∀ key ∈ set, drawn key := by
  induction chances generalizing totalSize before with
  | nil =>
    rw [generateFrom] at generates
    split at generates
    · cases generates
    · cases generates
      exact all
  | cons chance chances inductionHypothesis =>
    obtain ⟨first, later⟩ := List.forall_mem_cons.mp draw
    rw [generateFrom] at generates
    split at generates
    · obtain ⟨set, isSet, generates⟩ := Option.bind_eq_some_iff.mp generates
      refine inductionHypothesis later (List.forall_mem_append.mpr ⟨all, ?_⟩) generates
      exact List.forall_mem_singleton.mpr (forall_mem_generateSet first isSet)
    · cases generates
      exact all

end

/-- Generated sets hold existent keys only. -/
theorem existent_generateSets {minSize minTotalSize : Nat} {density : Density}
    {chances : List (Chance UInt32)} {sets : List (Finset UInt32)}
    (generates : generateSets minSize minTotalSize density (chances.map Chance.existent) =
      some sets) : ∀ set ∈ sets, ∀ key ∈ set, Existent key := by
  rw [generateSets] at generates
  split at generates
  · cases generates
  · obtain ⟨generated, runs, rfl⟩ := Option.map_eq_some_iff.mp generates
    have perm := List.mergeSort_perm generated fun first second => second.card ≤ first.card
    have draws : ∀ chance ∈ chances.map Chance.existent, ∀ key ∈ chance.draws, Existent key := by
      rintro _ member key draw
      obtain ⟨chance, -, rfl⟩ := List.mem_map.mp member
      obtain ⟨raw, -, rfl⟩ := List.mem_map.mp draw
      exact existent_randomExistent raw
    have all := forall_mem_generateFrom draws (List.forall_mem_nil _) runs
    exact fun set member => all set (perm.mem_iff.mp member)

/-- A key that is not existent is in none of the sets. -/
def Absent (sets : List (Finset UInt32)) (key : UInt32) : Prop := ∀ set ∈ sets, key ∉ set

theorem absent_randomNonexistent {sets : List (Finset UInt32)}
    (existent : ∀ set ∈ sets, ∀ key ∈ set, Existent key) (draw : UInt32) :
    Absent sets (randomNonexistent draw) :=
  fun set isSet member => not_existent_randomNonexistent draw (existent set isSet _ member)

/-! ### Cold misses -/

/-- `GetNonExistingKeys`. -/
def getNonExistingKeys (sets : List (Finset UInt32)) (draws : List UInt32) : Option (List UInt32) :=
  (List.range (getLargestSetSize sets)).mapM fun i => draws[i]?.map randomNonexistent

/-- A round of `FindMiss_Cold`: all sets are accessed with a key, which is erased again if it was
inserted. -/
def missRound (kLookup : Bool) (keys : List UInt32) (i : Nat) (state : VisitState UInt32) :
    Option (VisitState UInt32) := do
  let key ← keys[i]?
  let accesses := state.sets.mapIdx fun j set => ⟨j, set, key⟩
  let sets :=
    if kLookup then state.sets
    else (state.sets.map (Insert.insert key)).map fun set => set.erase key
  return ⟨sets, state.accesses ++ accesses⟩

/-- `FindMiss_Cold`, for a number of rounds: those of the warm-up and those that `KeepRunningBatch`
admits. -/
def findMissCold (kLookup : Bool) (sets : List (Finset UInt32)) (keys : List UInt32)
    (budget : Nat) : Option (VisitState UInt32) :=
  sweep keys.length id (missRound kLookup keys) budget 0 ⟨sets, []⟩

section

variable {sets : List (Finset UInt32)} {keys : List UInt32}

/-- Every access is to a set as it was at the start, which does not hold the key. -/
def AllMiss (sets : List (Finset UInt32)) (accesses : List (Access UInt32)) : Prop :=
  ∀ access ∈ accesses, sets[access.index]? = some access.before ∧ access.key ∉ access.before

theorem erase_map_insert {key : UInt32} (absent : Absent sets key) :
    (sets.map (Insert.insert key)).map (fun set => set.erase key) = sets := by
  rw [List.map_map]
  refine (List.map_congr_left fun set member => ?_).trans (List.map_id sets)
  exact Finset.erase_insert (absent set member)

theorem allMiss_mapIdx {key : UInt32} (absent : Absent sets key) :
    AllMiss sets (sets.mapIdx fun j set => ⟨j, set, key⟩) := by
  intro access member
  obtain ⟨j, inside, rfl⟩ := List.mem_mapIdx.mp member
  exact ⟨List.getElem?_eq_getElem inside, absent _ (List.getElem_mem inside)⟩

/-- What holds after some rounds. -/
structure Missed (sets : List (Finset UInt32)) (keys : List UInt32) (done : Nat)
    (state : VisitState UInt32) : Prop where
  restored : state.sets = sets
  misses : AllMiss sets state.accesses
  visits : ∀ j < sets.length, keysOf j state.accesses =
    (List.range done).filterMap fun i => keys[i % keys.length]?

theorem keysOf_mapIdx (key : UInt32) (start : Nat) {j : Nat} (inside : j < sets.length) :
    keysOf (start + j) (sets.mapIdx fun i set => (⟨start + i, set, key⟩ : Access UInt32)) =
      [key] := by
  induction sets generalizing start j with
  | nil => exact absurd inside (Nat.not_lt_zero j)
  | cons set sets inductionHypothesis =>
    rw [List.mapIdx_cons, ← List.singleton_append, keysOf_append]
    cases j with
    | zero =>
      have later : keysOf (start + 0) (sets.mapIdx fun i set =>
          (⟨start + (i + 1), set, key⟩ : Access UInt32)) = [] := by
        refine keysOf_eq_nil fun access member => ?_
        obtain ⟨i, inside, rfl⟩ := List.mem_mapIdx.mp member
        exact Nat.ne_of_gt (Nat.add_lt_add_left (Nat.succ_pos i) start)
      rw [later]
      simp [keysOf]
    | succ j =>
      have shifted : (fun i set => (⟨start + (i + 1), set, key⟩ : Access UInt32)) =
          fun i set => ⟨start + 1 + i, set, key⟩ := by
        funext i set
        rw [Nat.add_comm i 1, Nat.add_assoc]
      have later := inductionHypothesis (start + 1) (Nat.lt_of_succ_lt_succ inside)
      rw [shifted, Nat.add_comm j 1, ← Nat.add_assoc, later, keysOf_eq_nil]
      · rfl
      · refine List.forall_mem_singleton.mpr ?_
        show start + 0 ≠ start + 1 + j
        omega

theorem missRound_missed (absent : ∀ key ∈ keys, Absent sets key) (kLookup : Bool) {done : Nat}
    (inside : done % keys.length < keys.length) {state : VisitState UInt32}
    (missed : Missed sets keys done state) : ∃ next,
      missRound kLookup keys (done % keys.length) state = some next ∧
        Missed sets keys (done + 1) next := by
  obtain ⟨held, accesses⟩ := state
  obtain ⟨rfl, misses, visits⟩ := missed
  have isKey := List.getElem?_eq_getElem inside
  have absent := absent _ (List.getElem_mem inside)
  refine ⟨_, Option.bind_eq_some_iff.mpr ⟨_, isKey, rfl⟩, ?_, ?_, fun j below => ?_⟩
  · cases kLookup
    · exact erase_map_insert absent
    · rfl
  · exact List.forall_mem_append.mpr ⟨misses, allMiss_mapIdx absent⟩
  · have last := keysOf_mapIdx keys[done % keys.length] 0 below
    simp only [Nat.zero_add] at last
    have next : [done].filterMap (fun i => keys[i % keys.length]?) =
        [keys[done % keys.length]] := by
      simp only [List.filterMap_cons, isKey, List.filterMap_nil]
    rw [keysOf_append, visits j below, last, List.range_succ, List.filterMap_append, next]

/-- All accesses miss, however many rounds there are, and the sets are as they were. -/
theorem findMissCold_missed (nonempty : keys ≠ []) (absent : ∀ key ∈ keys, Absent sets key)
    (kLookup : Bool) (budget : Nat) : ∃ final,
      findMissCold kLookup sets keys budget = some final ∧ Missed sets keys budget final := by
  have positive : keys.length ≠ 0 := fun none => nonempty (List.eq_nil_of_length_eq_zero none)
  have step : ∀ done state, Missed sets keys done state → ∃ next,
      missRound kLookup keys (done % keys.length)
          (if done % keys.length = 0 then id state else state) = some next ∧
        Missed sets keys (done + 1) next := by
    intro done state missed
    rw [id_eq, ite_self]
    exact missRound_missed absent kLookup (Nat.mod_lt done (Nat.pos_of_ne_zero positive)) missed
  obtain ⟨final, runs, ends⟩ := sweep_invariant positive step budget
    (⟨rfl, fun _ none => (nomatch none), fun _ _ => rfl⟩ : Missed sets keys 0 ⟨sets, []⟩)
  rw [Nat.zero_mod] at runs
  rw [Nat.zero_add] at ends
  exact ⟨final, runs, ends⟩

end

/-! ### Hot misses -/

def FindMissHot.kMinTotalKeyCount : Nat := 64 <<< 10

def FindMissHot.kOpsPerKey : Nat := 512

/-- How many keys each set is accessed with. -/
def keysPerSet (sets : List (Finset UInt32)) : Nat := FindMissHot.kMinTotalKeyCount / sets.length

/-- A batch of `BM_SWISSMAP_FindMiss_Hot`, which draws a key for each place of each set. -/
def findMissHotBatch (draws : Nat → UInt32) (sets : List (Finset UInt32)) (batch : Nat) :
    List (Access UInt32) :=
  sets.zipIdx.flatMap fun (set, j) => (List.range (keysPerSet sets)).flatMap fun i =>
    List.replicate FindMissHot.kOpsPerKey
      ⟨j, set, randomNonexistent (draws ((batch * sets.length + j) * keysPerSet sets + i))⟩

/-- The keys are inserted into a set one after the other. -/
def insertAll (j : Nat) : List UInt32 → Finset UInt32 → Finset UInt32 × List (Access UInt32)
  | [], set => (set, [])
  | key :: keys, set =>
    let (final, accesses) := insertAll j keys (Insert.insert key set)
    (final, ⟨j, set, key⟩ :: accesses)

/-- A batch of `BM_SWISSMAP_InsertMiss_Hot`: the keys are erased behind all insertions. -/
def insertMissHotBatch (keys : List UInt32) (state : VisitState UInt32) : VisitState UInt32 :=
  let outcomes := state.sets.zipIdx.map fun (set, j) => insertAll j keys set
  ⟨outcomes.map fun outcome => keys.foldl Finset.erase outcome.1,
    state.accesses ++ outcomes.flatMap Prod.snd⟩

/-- `BM_SWISSMAP_InsertMiss_Hot`, for a number of batches. -/
def insertMissHot (keys : List UInt32) (budget : Nat) (sets : List (Finset UInt32)) :
    VisitState UInt32 :=
  (insertMissHotBatch keys)^[budget] ⟨sets, []⟩

section

variable {sets : List (Finset UInt32)} {keys : List UInt32}

theorem insertAll_spec (j : Nat) (keys : List UInt32) (set : Finset UInt32) :
    (insertAll j keys set).1 = set ∪ keys.toFinset ∧
      (insertAll j keys set).2.length = keys.length ∧
      ((∀ access ∈ (insertAll j keys set).2, access.key ∉ access.before) ↔
        keys.Nodup ∧ ∀ key ∈ keys, key ∉ set) := by
  induction keys generalizing set with
  | nil => simp [insertAll]
  | cons key keys inductionHypothesis =>
    obtain ⟨final, length, misses⟩ := inductionHypothesis (Insert.insert key set)
    refine ⟨?_, congrArg Nat.succ length, ?_⟩
    · show (insertAll j keys _).1 = _
      rw [final, List.toFinset_cons, Finset.insert_union, Finset.union_insert]
    · show (∀ access ∈ _ :: (insertAll j keys _).2, _) ↔ _
      rw [List.forall_mem_cons, misses, List.nodup_cons, List.forall_mem_cons]
      simp only [Finset.mem_insert, not_or]
      constructor
      · rintro ⟨new, distinct, others⟩
        exact ⟨⟨fun again => (others key again).1 rfl, distinct⟩, new,
          fun other member => (others other member).2⟩
      · rintro ⟨⟨once, distinct⟩, new, others⟩
        exact ⟨new, distinct, fun other member =>
          ⟨fun same => once (same ▸ member), others other member⟩⟩

theorem foldl_erase (keys : List UInt32) (set : Finset UInt32) :
    keys.foldl Finset.erase set = set \ keys.toFinset := by
  induction keys generalizing set with
  | nil => rw [List.foldl_nil, List.toFinset_nil, Finset.sdiff_empty]
  | cons key keys inductionHypothesis =>
    rw [List.foldl_cons, inductionHypothesis, List.toFinset_cons, Finset.erase_sdiff_comm,
      Finset.sdiff_insert]

/-- A batch leaves the sets as they were. All its insertions are misses if no key was drawn
twice. -/
theorem insertMissHotBatch_spec (nonempty : sets ≠ []) (absent : ∀ key ∈ keys, Absent sets key)
    (accesses : List (Access UInt32)) : ∃ batch,
      insertMissHotBatch keys ⟨sets, accesses⟩ = ⟨sets, accesses ++ batch⟩ ∧
      batch.length = sets.length * keys.length ∧
      ((∀ access ∈ batch, access.key ∉ access.before) ↔ keys.Nodup) := by
  refine ⟨(sets.zipIdx.map fun (set, j) => insertAll j keys set).flatMap Prod.snd, ?_, ?_, ?_⟩
  · refine congrArg (VisitState.mk · _) ?_
    rw [List.map_map]
    refine Eq.trans (List.map_congr_left fun entry member => ?_) (List.zipIdx_map_fst 0 sets)
    obtain ⟨set, j⟩ := entry
    have disjoint : Disjoint set keys.toFinset := Finset.disjoint_right.mpr fun key listed =>
      absent key (List.mem_toFinset.mp listed) set (List.fst_mem_of_mem_zipIdx member)
    show keys.foldl Finset.erase (insertAll j keys set).1 = set
    rw [(insertAll_spec j keys set).1, foldl_erase, Finset.union_sdiff_right,
      Finset.sdiff_eq_self_of_disjoint disjoint]
  · have lengths : ∀ length ∈ (sets.zipIdx.map fun (set, j) => insertAll j keys set).map
        fun outcome => outcome.2.length, length = keys.length := by
      intro length member
      obtain ⟨outcome, isOutcome, rfl⟩ := List.mem_map.mp member
      obtain ⟨⟨set, j⟩, -, rfl⟩ := List.mem_map.mp isOutcome
      exact (insertAll_spec j keys set).2.1
    rw [List.length_flatMap, List.sum_eq_card_nsmul _ _ lengths, List.length_map, List.length_map,
      List.length_zipIdx, smul_eq_mul]
  · have each (set : Finset UInt32) (member : set ∈ sets) (j : Nat) :
        (∀ access ∈ (insertAll j keys set).2, access.key ∉ access.before) ↔ keys.Nodup := by
      rw [(insertAll_spec j keys set).2.2]
      exact and_iff_left fun key listed => absent key listed set member
    constructor
    · intro misses
      obtain ⟨front, rest, rfl⟩ := List.exists_cons_of_ne_nil nonempty
      refine (each front List.mem_cons_self 0).mp fun access member => misses access ?_
      exact List.mem_flatMap.mpr ⟨_, List.mem_cons_self, member⟩
    · rintro distinct access member
      obtain ⟨outcome, isOutcome, inside⟩ := List.mem_flatMap.mp member
      obtain ⟨⟨set, j⟩, isEntry, rfl⟩ := List.mem_map.mp isOutcome
      exact (each set (List.fst_mem_of_mem_zipIdx isEntry) j).mpr distinct access inside

theorem insertMissHot_spec (nonempty : sets ≠ []) (absent : ∀ key ∈ keys, Absent sets key)
    (budget : Nat) : ∃ accesses,
      insertMissHot keys budget sets = ⟨sets, accesses⟩ ∧
      accesses.length = budget * (sets.length * keys.length) ∧
      ((∀ access ∈ accesses, access.key ∉ access.before) ↔ budget = 0 ∨ keys.Nodup) := by
  induction budget with
  | zero => exact ⟨[], rfl, (Nat.zero_mul _).symm, fun _ => .inl rfl, fun _ _ none => nomatch none⟩
  | succ budget inductionHypothesis =>
    obtain ⟨accesses, runs, length, misses⟩ := inductionHypothesis
    obtain ⟨batch, runs', length', misses'⟩ := insertMissHotBatch_spec nonempty absent accesses
    refine ⟨accesses ++ batch, ?_, ?_, ?_⟩
    · rw [insertMissHot, Function.iterate_succ_apply']
      exact (congrArg _ runs).trans runs'
    · rw [List.length_append, length, length', Nat.succ_mul]
    · rw [List.forall_mem_append, misses, misses']
      constructor
      · exact fun ⟨_, distinct⟩ => .inr distinct
      · rintro (impossible | distinct)
        · cases impossible
        · exact ⟨.inr distinct, distinct⟩

theorem allMiss_findMissHotBatch (existent : ∀ set ∈ sets, ∀ key ∈ set, Existent key)
    (draws : Nat → UInt32) (batch : Nat) : AllMiss sets (findMissHotBatch draws sets batch) := by
  intro access member
  obtain ⟨⟨set, j⟩, isEntry, member⟩ := List.mem_flatMap.mp member
  obtain ⟨i, -, member⟩ := List.mem_flatMap.mp member
  obtain rfl := List.eq_of_mem_replicate member
  exact ⟨List.mem_zipIdx_iff_getElem?.mp isEntry,
    absent_randomNonexistent existent _ set (List.fst_mem_of_mem_zipIdx isEntry)⟩

theorem length_findMissHotBatch (draws : Nat → UInt32) (batch : Nat) :
    (findMissHotBatch draws sets batch).length =
      sets.length * keysPerSet sets * FindMissHot.kOpsPerKey := by
  simp only [findMissHotBatch, List.length_flatMap, List.length_replicate, List.map_const',
    List.length_range, List.sum_replicate, List.length_zipIdx, smul_eq_mul, Nat.mul_assoc]

end

/-! ### What is measured -/

section

variable {minSize minTotalSize : Nat} {density : Density} {chances : List (Chance UInt32)}
  {sets : List (Finset UInt32)}

omit chances density in
theorem nonempty_getNonExistingKeys (generated : IsGenerated minSize minTotalSize sets)
    (positive : 0 < minTotalSize) {draws keys : List UInt32}
    (isKeys : getNonExistingKeys sets draws = some keys) : keys ≠ [] := by
  rintro rfl
  obtain ⟨front, rest, rfl⟩ := List.exists_cons_of_ne_nil (generated.nonempty positive)
  have large := generated.positive.trans_le (generated.sizes front List.mem_cons_self)
  have lengths := (mapM_eq_some_iff.mp isKeys).length_eq
  rw [List.length_range] at lengths
  exact absurd lengths large.ne'

theorem absent_getNonExistingKeys (existent : ∀ set ∈ sets, ∀ key ∈ set, Existent key)
    {draws keys : List UInt32} (isKeys : getNonExistingKeys sets draws = some keys) :
    ∀ key ∈ keys, Absent sets key := by
  intro key member
  obtain ⟨i, -, found⟩ := exists_of_forall₂ (mapM_eq_some_iff.mp isKeys).flip member
  obtain ⟨draw, -, rfl⟩ := Option.map_eq_some_iff.mp found
  exact absent_randomNonexistent existent draw

/-- Every lookup and every insertion of `FindMiss_Cold` is a miss, and after each round the cached
sets are as they were. -/
theorem findMissCold_misses
    (generates : generateSets minSize minTotalSize density (chances.map Chance.existent) =
      some sets) (positive : 0 < minTotalSize) {draws keys : List UInt32}
    (isKeys : getNonExistingKeys sets draws = some keys) (kLookup : Bool) (budget : Nat) :
    ∃ final, findMissCold kLookup sets keys budget = some final ∧
      Missed sets keys budget final := by
  exact findMissCold_missed
    (nonempty_getNonExistingKeys (isGenerated_generateSets generates) positive isKeys)
    (absent_getNonExistingKeys (existent_generateSets generates) isKeys) kLookup budget

/-- The hot benchmarks report as many operations as they execute. Every lookup is a miss. The
insertions leave the sets as they were, and all of them are misses if and only if no key was drawn
twice. -/
theorem missesHot_iff
    (generates : generateSets minSize FindMissHot.kMinTotalKeyCount density
      (chances.map Chance.existent) = some sets) :
    0 < keysPerSet sets ∧
    (∀ draws batch, AllMiss sets (findMissHotBatch draws sets batch) ∧
      (findMissHotBatch draws sets batch).length =
        toSizeT (sets.length * keysPerSet sets * FindMissHot.kOpsPerKey)) ∧
    ∀ draws : List UInt32, draws.length = keysPerSet sets → ∀ budget, ∃ accesses,
      insertMissHot (draws.map randomNonexistent) budget sets = ⟨sets, accesses⟩ ∧
      accesses.length = budget * toSizeT (sets.length * keysPerSet sets) ∧
      ((∀ access ∈ accesses, access.key ∉ access.before) ↔
        budget = 0 ∨ (draws.map randomNonexistent).Nodup) := by
  have generated := isGenerated_generateSets generates
  have existent := existent_generateSets generates
  have nonempty := generated.nonempty (by decide)
  have fits : sets.length * keysPerSet sets ≤ FindMissHot.kMinTotalKeyCount := Nat.mul_div_le _ _
  have constant : FindMissHot.kMinTotalKeyCount = 65536 := rfl
  refine ⟨Nat.div_pos generated.length_le (List.length_pos_of_ne_nil nonempty),
    fun draws batch => ⟨allMiss_findMissHotBatch existent draws batch, ?_⟩,
    fun draws length budget => ?_⟩
  · rw [length_findMissHotBatch, toSizeT, Nat.mod_eq_of_lt]
    unfold FindMissHot.kOpsPerKey
    omega
  · obtain ⟨accesses, runs, count, misses⟩ := insertMissHot_spec nonempty
      (fun key member => by
        obtain ⟨draw, -, rfl⟩ := List.mem_map.mp member
        exact absent_randomNonexistent existent draw) budget
    refine ⟨accesses, runs, ?_, misses⟩
    rw [count, List.length_map, length, toSizeT, Nat.mod_eq_of_lt (by omega)]

end

/-! ### Two sets -/

theorem map_randomExistent_existentKeys {count : Nat} (bound : count ≤ 2 ^ 30) :
    (existentKeys count).map randomExistent = existentKeys count := by
  refine (List.map_congr_left fun key member => ?_).trans (List.map_id _)
  refine randomExistent_of_existent ?_
  obtain ⟨index, inRange, rfl⟩ := List.mem_map.mp member
  have below : index < 2 ^ 30 := (List.mem_range.mp inRange).trans_le bound
  show (BitVec.ofNat 32 (2 ^ 30 + index)).getLsbD 30 = true
  rw [BitVec.getLsbD_ofNat, Nat.testBit_two_pow_add_eq, Nat.testBit_lt_two_pow below]
  rfl

theorem existent_resizedAtLast {count : Nat} (bound : count ≤ 2 ^ 30) :
    (resizedAtLast (existentKeys count)).existent = resizedAtLast (existentKeys count) :=
  congrArg (Chance.mk · _) (map_randomExistent_existentKeys bound)

def twoSets (first second : Nat) : List (Finset UInt32) :=
  [(existentKeys first).toFinset, (existentKeys second).toFinset]

theorem generateSets_twoSets {minSize minTotalSize first second : Nat} (positive : minSize ≠ 0)
    (bound : first ≤ 2 ^ 30) (large : minSize < second) (descending : second ≤ first)
    (few : first < minTotalSize) (enough : minTotalSize ≤ first + second) :
    generateSets minSize minTotalSize .kMin
      ([resizedAtLast (existentKeys first), resizedAtLast (existentKeys second)].map
        Chance.existent) = some (twoSets first second) := by
  rw [List.map_cons, List.map_singleton, existent_resizedAtLast bound,
    existent_resizedAtLast (descending.trans bound)]
  exact generateSets_pair positive bound large descending few enough

theorem findMissCold_misses_twoSets :
    ∃ final, findMissCold false (twoSets 4 3) [0, 1, 2, 0] 1000 = some final ∧
      Missed (twoSets 4 3) [0, 1, 2, 0] 1000 final := by
  have generates := @generateSets_twoSets 2 5 4 3 (by decide) (by decide) (by decide) (by decide)
    (by decide) (by decide)
  have isKeys : getNonExistingKeys (twoSets 4 3) [0, 1, 2, 0] = some [0, 1, 2, 0] := by decide
  exact findMissCold_misses generates (by decide) isKeys false 1000

theorem missesHot_iff_twoSets :
    0 < keysPerSet (twoSets 40000 32769) ∧
    (∀ draws batch, AllMiss (twoSets 40000 32769)
        (findMissHotBatch draws (twoSets 40000 32769) batch) ∧
      (findMissHotBatch draws (twoSets 40000 32769) batch).length =
        toSizeT (2 * keysPerSet (twoSets 40000 32769) * FindMissHot.kOpsPerKey)) ∧
    ∀ draws : List UInt32, draws.length = keysPerSet (twoSets 40000 32769) → ∀ budget, ∃ accesses,
      insertMissHot (draws.map randomNonexistent) budget (twoSets 40000 32769) =
          ⟨twoSets 40000 32769, accesses⟩ ∧
        accesses.length = budget * toSizeT (2 * keysPerSet (twoSets 40000 32769)) ∧
        ((∀ access ∈ accesses, access.key ∉ access.before) ↔
          budget = 0 ∨ (draws.map randomNonexistent).Nodup) := by
  have generates := @generateSets_twoSets 32768 FindMissHot.kMinTotalKeyCount 40000 32769
    (by decide) (by decide) (by decide) (by decide) (by decide) (by decide)
  exact missesHot_iff generates

end Fleetbench.Swissmap
