/-
This file is the abstract side of the replay: the simulation that applies every
recorded event directly to the vectors of live objects. A birth allocates and
appends, a death frees the object at the recorded index and moves the last
object of its class into the gap.

It also says what a sound list of allocator calls is. Under an allocator that
never returns a live pointer, every call the eager simulation makes is sound:
the vectors hold exactly distinct live pointers, each with the size of its
class, so a free always names a pointer that is live with that size.
-/

import Fleetbench.Tcmalloc.Empirical

namespace Fleetbench.Tcmalloc

open Library

/-! ### The eager simulation -/

/-- The live objects of every class, and the allocator calls made so far. -/
structure Eager where
  live : List (List Ptr)
  calls : List Call
  deriving DecidableEq, Repr

/-- Apply one recorded event to the live vectors. -/
def eagerStep (alloc : Allocator) (sizes : List Nat) (eager : Eager) :
    RecordEvent → Option Eager
  | .birth i => do
    let size ← sizes[i]?
    let objs ← eager.live[i]?
    let p := alloc eager.calls size
    return ⟨eager.live.set i (objs ++ [p]), eager.calls ++ [.alloc size p]⟩
  | .death i toFree => do
    let size ← sizes[i]?
    let objs ← eager.live[i]?
    let p ← objs[toFree]?
    return ⟨eager.live.set i (swapRemove objs toFree), eager.calls ++ [.dealloc p size]⟩

def eagerRun (alloc : Allocator) (sizes : List Nat) : List RecordEvent → Eager → Option Eager
  | [], eager => some eager
  | event :: rest, eager => (eagerStep alloc sizes eager event).bind (eagerRun alloc sizes rest)

/-- The whole trace, a given number of times. -/
def eagerRounds (alloc : Allocator) (sizes : List Nat) (trace : List RecordEvent) :
    Nat → Eager → Option Eager
  | 0, eager => some eager
  | rounds + 1, eager => (eagerRounds alloc sizes trace rounds eager).bind
      (eagerRun alloc sizes trace)

/-- Everything one eager step can do. -/
theorem eagerStep_cases {alloc : Allocator} {sizes : List Nat} {eager next : Eager}
    {event : RecordEvent} (step : eagerStep alloc sizes eager event = some next) :
    (∃ i size objs, event = .birth i ∧ sizes[i]? = some size ∧ eager.live[i]? = some objs ∧
      next = ⟨eager.live.set i (objs ++ [alloc eager.calls size]),
        eager.calls ++ [.alloc size (alloc eager.calls size)]⟩) ∨
    (∃ i toFree size objs p, event = .death i toFree ∧ sizes[i]? = some size ∧
      eager.live[i]? = some objs ∧ objs[toFree]? = some p ∧
      next = ⟨eager.live.set i (swapRemove objs toFree), eager.calls ++ [.dealloc p size]⟩) := by
  cases event with
  | birth i =>
    simp only [eagerStep, Option.bind_eq_bind, Option.bind_eq_some_iff, Option.pure_def,
      Option.some.injEq] at step
    obtain ⟨size, sizeEq, objs, objsEq, rfl⟩ := step
    exact Or.inl ⟨i, size, objs, rfl, sizeEq, objsEq, rfl⟩
  | death i toFree =>
    simp only [eagerStep, Option.bind_eq_bind, Option.bind_eq_some_iff, Option.pure_def,
      Option.some.injEq] at step
    obtain ⟨size, sizeEq, objs, objsEq, p, found, rfl⟩ := step
    exact Or.inr ⟨i, toFree, size, objs, p, rfl, sizeEq, objsEq, found, rfl⟩

/-! ### Sound lists of allocator calls -/

/-- The effect of one call on the map from live pointers to the sizes they were born with. -/
def heapStep (heap : Ptr → Option Nat) : Call → Ptr → Option Nat
  | .alloc size p => Function.update heap p (some size)
  | .dealloc p _ => Function.update heap p none

/-- The live pointers after a list of calls, with their sizes. -/
def heapAfter (calls : List Call) : Ptr → Option Nat :=
  calls.foldl heapStep fun _ => none

theorem heapAfter_concat (calls : List Call) (call : Call) :
    heapAfter (calls ++ [call]) = heapStep (heapAfter calls) call := by
  rw [heapAfter, List.foldl_concat]
  rfl

/-- The allocator never returns a pointer that is live. -/
def FreshAllocator (alloc : Allocator) : Prop :=
  ∀ calls size, heapAfter calls (alloc calls size) = none

/-- Every free names a pointer that is live at that point with exactly that size: it has been
born, it has not been freed since, and it goes back with the size it was born with. -/
def CallsSound (calls : List Call) : Prop :=
  ∀ before p size after, calls = before ++ .dealloc p size :: after →
    heapAfter before p = some size

theorem callsSound_nil : CallsSound [] := by
  intro before p size after split
  simp at split

theorem callsSound_concat_alloc {calls : List Call} (sound : CallsSound calls) (size : Nat)
    (p : Ptr) : CallsSound (calls ++ [.alloc size p]) := by
  intro before q other after split
  rcases List.eq_nil_or_concat' after with rfl | ⟨front, last, rfl⟩
  · have ends := (List.append_inj' split rfl).2
    simp at ends
  · have shorter : calls ++ [.alloc size p] = (before ++ .dealloc q other :: front) ++ [last] := by
      simpa using split
    exact sound before q other front (List.append_inj' shorter rfl).1

theorem callsSound_concat_dealloc {calls : List Call} (sound : CallsSound calls) (p : Ptr)
    (size : Nat) (live : heapAfter calls p = some size) :
    CallsSound (calls ++ [.dealloc p size]) := by
  intro before q other after split
  rcases List.eq_nil_or_concat' after with rfl | ⟨front, last, rfl⟩
  · obtain ⟨rfl, ends⟩ := List.append_inj' split rfl
    simp only [List.cons.injEq, Call.dealloc.injEq, and_true] at ends
    rw [← ends.1, ← ends.2]
    exact live
  · have shorter : calls ++ [.dealloc p size] =
        (before ++ .dealloc q other :: front) ++ [last] := by
      simpa using split
    exact sound before q other front (List.append_inj' shorter rfl).1

/-! ### The eager simulation is sound under a fresh allocator -/

/-- The live vectors hold distinct live pointers, each with the size of its class, and every
free so far was sound. -/
structure EagerSound (sizes : List Nat) (eager : Eager) : Prop where
  tracked : ∀ (i : Nat) size objs, sizes[i]? = some size → eager.live[i]? = some objs → ∀ p ∈ objs,
    heapAfter eager.calls p = some size
  nodup : ∀ (i : Nat) objs, eager.live[i]? = some objs → objs.Nodup
  disjoint : ∀ (i j : Nat) objs others, eager.live[i]? = some objs → eager.live[j]? = some others →
    i ≠ j → ∀ p ∈ objs, p ∉ others
  sameLength : eager.live.length = sizes.length
  sound : CallsSound eager.calls

theorem EagerSound.size_of_live {sizes : List Nat} {eager : Eager}
    (sound : EagerSound sizes eager) {i : Nat} {objs : List Ptr}
    (found : eager.live[i]? = some objs) : ∃ size, sizes[i]? = some size := by
  have bound := (List.getElem?_eq_some_iff.mp found).1
  rw [sound.sameLength] at bound
  exact ⟨sizes[i], List.getElem?_eq_getElem bound⟩

/-- A pointer the allocator may return stands in no live vector. -/
theorem EagerSound.notMem_of_fresh {sizes : List Nat} {eager : Eager}
    (sound : EagerSound sizes eager) {p : Ptr} (dead : heapAfter eager.calls p = none)
    {i : Nat} {objs : List Ptr} (found : eager.live[i]? = some objs) : p ∉ objs := by
  intro member
  obtain ⟨size, sizeEq⟩ := sound.size_of_live found
  rw [sound.tracked i size objs sizeEq found p member] at dead
  cases dead

theorem eagerSound_birth {sizes : List Nat} {eager : Eager} (sound : EagerSound sizes eager)
    {i size : Nat} {objs : List Ptr} (sizeEq : sizes[i]? = some size)
    (found : eager.live[i]? = some objs) {p : Ptr} (dead : heapAfter eager.calls p = none) :
    EagerSound sizes ⟨eager.live.set i (objs ++ [p]), eager.calls ++ [.alloc size p]⟩ := by
  refine ⟨?_, ?_, ?_, ?_, callsSound_concat_alloc sound.sound size p⟩
  · intro j other others otherEq othersEq q member
    rw [heapAfter_concat]
    show Function.update (heapAfter eager.calls) p (some size) q = some other
    rcases getElem?_set_cases othersEq with ⟨rfl, rfl⟩ | ⟨different, othersEq⟩
    · rw [sizeEq] at otherEq
      rcases List.mem_append.mp member with old | new
      · have survives : q ≠ p := fun same => sound.notMem_of_fresh dead found (same ▸ old)
        rw [Function.update_of_ne survives, ← otherEq]
        exact (sound.tracked j size objs sizeEq found q old)
      · rw [List.mem_singleton.mp new, Function.update_self, otherEq]
    · have survives : q ≠ p := fun same => sound.notMem_of_fresh dead othersEq (same ▸ member)
      rw [Function.update_of_ne survives]
      exact sound.tracked j other others otherEq othersEq q member
  · intro j others othersEq
    rcases getElem?_set_cases othersEq with ⟨rfl, rfl⟩ | ⟨_, othersEq⟩
    · exact List.nodup_append.mpr ⟨sound.nodup j objs found, List.nodup_singleton p,
        fun q old r new => fun same => sound.notMem_of_fresh dead found
          (List.mem_singleton.mp new ▸ same ▸ old)⟩
    · exact sound.nodup j others othersEq
  · intro j k first second firstEq secondEq different q inFirst inSecond
    rcases getElem?_set_cases firstEq with ⟨rfl, rfl⟩ | ⟨_, firstOld⟩ <;>
      rcases getElem?_set_cases secondEq with ⟨rfl, rfl⟩ | ⟨_, secondOld⟩
    · exact different rfl
    · rcases List.mem_append.mp inFirst with old | new
      · exact sound.disjoint j k objs second found secondOld different q old inSecond
      · exact sound.notMem_of_fresh dead secondOld (List.mem_singleton.mp new ▸ inSecond)
    · rcases List.mem_append.mp inSecond with old | new
      · exact sound.disjoint j k first objs firstOld found different q inFirst old
      · exact sound.notMem_of_fresh dead firstOld (List.mem_singleton.mp new ▸ inFirst)
    · exact sound.disjoint j k first second firstOld secondOld different q inFirst inSecond
  · rw [List.length_set]
    exact sound.sameLength

theorem eagerSound_death {sizes : List Nat} {eager : Eager} (sound : EagerSound sizes eager)
    {i toFree size : Nat} {objs : List Ptr} {p : Ptr} (sizeEq : sizes[i]? = some size)
    (found : eager.live[i]? = some objs) (picked : objs[toFree]? = some p) :
    EagerSound sizes
      ⟨eager.live.set i (swapRemove objs toFree), eager.calls ++ [.dealloc p size]⟩ := by
  have member : p ∈ objs := List.mem_of_getElem? picked
  have distinct : (p :: swapRemove objs toFree).Nodup :=
    (perm_swapRemove picked).nodup_iff.mp (sound.nodup i objs found)
  have kept : ∀ q ∈ swapRemove objs toFree, q ∈ objs ∧ q ≠ p := fun q inside =>
    ⟨(perm_swapRemove picked).mem_iff.mpr (List.mem_cons_of_mem _ inside),
      fun same => (List.nodup_cons.mp distinct).1 (same ▸ inside)⟩
  refine ⟨?_, ?_, ?_, ?_, callsSound_concat_dealloc sound.sound p size
    (sound.tracked i size objs sizeEq found p member)⟩
  · intro j other others otherEq othersEq q inside
    rw [heapAfter_concat]
    show Function.update (heapAfter eager.calls) p none q = some other
    rcases getElem?_set_cases othersEq with ⟨rfl, rfl⟩ | ⟨different, othersEq⟩
    · rw [Function.update_of_ne (kept q inside).2]
      exact sound.tracked j other objs otherEq found q (kept q inside).1
    · have survives : q ≠ p := fun same =>
        sound.disjoint i j objs others found othersEq (Ne.symm different) p member (same ▸ inside)
      rw [Function.update_of_ne survives]
      exact sound.tracked j other others otherEq othersEq q inside
  · intro j others othersEq
    rcases getElem?_set_cases othersEq with ⟨rfl, rfl⟩ | ⟨_, othersEq⟩
    · exact (List.nodup_cons.mp distinct).2
    · exact sound.nodup j others othersEq
  · intro j k first second firstEq secondEq different q inFirst inSecond
    rcases getElem?_set_cases firstEq with ⟨rfl, rfl⟩ | ⟨_, firstOld⟩ <;>
      rcases getElem?_set_cases secondEq with ⟨rfl, rfl⟩ | ⟨_, secondOld⟩
    · exact different rfl
    · exact sound.disjoint j k objs second found secondOld different q (kept q inFirst).1 inSecond
    · exact sound.disjoint j k first objs firstOld found different q inFirst (kept q inSecond).1
    · exact sound.disjoint j k first second firstOld secondOld different q inFirst inSecond
  · rw [List.length_set]
    exact sound.sameLength

theorem eagerSound_step {alloc : Allocator} (fresh : FreshAllocator alloc) {sizes : List Nat}
    {eager next : Eager} (sound : EagerSound sizes eager) {event : RecordEvent}
    (step : eagerStep alloc sizes eager event = some next) : EagerSound sizes next := by
  obtain ⟨i, size, objs, _, sizeEq, found, rfl⟩ |
    ⟨i, toFree, size, objs, p, _, sizeEq, found, picked, rfl⟩ := eagerStep_cases step
  · exact eagerSound_birth sound sizeEq found (fresh _ _)
  · exact eagerSound_death sound sizeEq found picked

theorem eagerSound_run {alloc : Allocator} (fresh : FreshAllocator alloc) {sizes : List Nat}
    {trace : List RecordEvent} {eager next : Eager} (sound : EagerSound sizes eager)
    (run : eagerRun alloc sizes trace eager = some next) : EagerSound sizes next := by
  induction trace generalizing eager with
  | nil =>
    cases run
    exact sound
  | cons event rest inductionHypothesis =>
    obtain ⟨middle, step, run⟩ := Option.bind_eq_some_iff.mp run
    exact inductionHypothesis (eagerSound_step fresh sound step) run

theorem eagerSound_rounds {alloc : Allocator} (fresh : FreshAllocator alloc)
    {sizes : List Nat} {trace : List RecordEvent} {rounds : Nat} {eager next : Eager}
    (sound : EagerSound sizes eager)
    (run : eagerRounds alloc sizes trace rounds eager = some next) : EagerSound sizes next := by
  induction rounds generalizing next with
  | zero =>
    cases run
    exact sound
  | succ rounds inductionHypothesis =>
    obtain ⟨middle, earlier, run⟩ := Option.bind_eq_some_iff.mp run
    exact eagerSound_run fresh (inductionHypothesis earlier) run

/-- Before the warm-up no object is live and no call has been made. -/
theorem eagerSound_empty (sizes : List Nat) :
    EagerSound sizes ⟨sizes.map fun _ => [], []⟩ := by
  have isEmpty : ∀ (i : Nat) objs, (sizes.map fun _ => ([] : List Ptr))[i]? = some objs →
      objs = [] := by
    intro i objs found
    rw [List.getElem?_map] at found
    obtain ⟨_, _, rfl⟩ := Option.map_eq_some_iff.mp found
    rfl
  refine ⟨?_, ?_, ?_, List.length_map _, callsSound_nil⟩
  · intro i size objs _ found p member
    rw [isEmpty i objs found] at member
    cases member
  · intro i objs found
    rw [isEmpty i objs found]
    exact List.nodup_nil
  · intro i _ objs _ found _ _ p member
    rw [isEmpty i objs found] at member
    cases member

end Fleetbench.Tcmalloc
