/-
This file is about loops that take whole chunks until there are enough items:
one stage of chunks after the other, and chunk after chunk in a stage. Such a
loop returns the shortest sequence of chunks that is long enough, and ends if
there is one.
-/

import Fleetbench.Library.Loop
import Mathlib.Data.List.Infix
import Mathlib.Tactic.Common

namespace Fleetbench.Library

universe u

variable {Item : Type u}

/-! ### The loop -/

/-- Take the chunks of a stage, and stop with enough. -/
def fill (wanted : Int) : List (List Item) → List Item → Round (List Item) (List Item)
  | [], taken => .again taken
  | chunk :: rest, taken =>
    if wanted ≤ (taken ++ chunk).length then .stop (taken ++ chunk)
    else fill wanted rest (taken ++ chunk)

/-- Take the chunks of the next stage, if there are not enough yet. -/
def fillRound (wanted : Int) (stage : Nat → List (List Item)) :
    Nat × List Item → Round (Nat × List Item) (List Item)
  | (index, taken) =>
    if taken.length < wanted then
      match fill wanted (stage index) taken with
      | .again taken => .again (index + 1, taken)
      | .stop taken => .stop taken
    else .stop taken

/-- The chunks of the first stages. -/
def stages (stage : Nat → List (List Item)) (count : Nat) : List (List Item) :=
  (List.range count).flatMap stage

/-- The items are those of the shortest sequence of chunks that is long enough. -/
structure Fills (wanted : Int) (stage : Nat → List (List Item)) (items : List Item) : Prop where
  chunks : ∃ count, ∃ taken, taken <+: stages stage count ∧ items = taken.flatten
  enough : wanted ≤ items.length
  shortest : ∀ count taken, taken <+: stages stage count → wanted ≤ taken.flatten.length →
    items.length ≤ taken.flatten.length

/-! ### One stage -/

variable {wanted : Int} {stage : Nat → List (List Item)}

theorem fill_again {chunks : List (List Item)} {taken next : List Item}
    (round : fill wanted chunks taken = .again next) (few : taken.length < wanted) :
    next = taken ++ chunks.flatten ∧ next.length < wanted := by
  induction chunks generalizing taken with
  | nil =>
    cases round
    exact ⟨(List.append_nil _).symm, few⟩
  | cons chunk rest inductionHypothesis =>
    rw [fill] at round
    split at round
    · cases round
    · rename_i few'
      obtain ⟨isNext, short⟩ := inductionHypothesis round (not_le.mp few')
      refine ⟨?_, short⟩
      rw [isNext, List.flatten_cons, List.append_assoc]

theorem fill_of_empty {chunks : List (List Item)} {taken : List Item}
    (empty : ∀ chunk ∈ chunks, chunk = []) (few : taken.length < wanted) :
    fill wanted chunks taken = .again taken := by
  induction chunks with
  | nil => rfl
  | cons chunk rest inductionHypothesis =>
    obtain ⟨rfl, others⟩ := List.forall_mem_cons.mp empty
    rw [fill, List.append_nil, if_neg (not_le.mpr few)]
    exact inductionHypothesis others

theorem fill_stop {chunks : List (List Item)} {taken items : List Item}
    (round : fill wanted chunks taken = .stop items) (few : taken.length < wanted) :
    wanted ≤ items.length ∧ ∃ before chunk after, chunks = before ++ chunk :: after ∧
      items = taken ++ (before ++ [chunk]).flatten ∧
      (taken ++ before.flatten).length < wanted := by
  induction chunks generalizing taken with
  | nil => cases round
  | cons chunk rest inductionHypothesis =>
    rw [fill] at round
    split at round
    · rename_i enough
      cases round
      refine ⟨enough, [], chunk, rest, rfl, ?_, ?_⟩
      · rw [List.nil_append, List.flatten_singleton]
      · rwa [List.flatten_nil, List.append_nil]
    · rename_i few'
      obtain ⟨enough, before, last, after, rfl, rfl, short⟩ :=
        inductionHypothesis round (not_le.mp few')
      refine ⟨enough, chunk :: before, last, after, rfl, ?_, ?_⟩
      · rw [List.cons_append, List.flatten_cons, List.append_assoc]
      · rwa [List.flatten_cons, ← List.append_assoc]

/-! ### All stages -/

theorem stages_succ (count : Nat) :
    stages stage (count + 1) = stages stage count ++ stage count := by
  rw [stages, List.range_succ, List.flatMap_append, List.flatMap_singleton]
  rfl

theorem prefix_stages {count more : Nat} (le : count ≤ more) :
    stages stage count <+: stages stage more := by
  induction more, le using Nat.le_induction with
  | base => exact List.prefix_rfl
  | succ more _ inductionHypothesis =>
    rw [stages_succ]
    exact inductionHypothesis.trans (List.prefix_append _ _)

theorem length_flatten_le {first second : List (List Item)} (isPrefix : first <+: second) :
    first.flatten.length ≤ second.flatten.length := by
  obtain ⟨rest, rfl⟩ := isPrefix
  rw [List.flatten_append, List.length_append]
  exact Nat.le_add_right _ _

/-- The first chunks that are enough are a shortest sequence. -/
theorem fills_of_first {count : Nat} {before : List (List Item)} {chunk : List Item}
    (isPrefix : before ++ [chunk] <+: stages stage count)
    (few : before.flatten.length < wanted)
    (enough : wanted ≤ (before ++ [chunk]).flatten.length) :
    Fills wanted stage (before ++ [chunk]).flatten := by
  refine ⟨⟨count, _, isPrefix, rfl⟩, enough, fun count' taken isPrefix' enough' => ?_⟩
  rcases List.prefix_or_prefix_of_prefix
      (isPrefix'.trans (prefix_stages (Nat.le_max_right count count')))
      (isPrefix.trans (prefix_stages (Nat.le_max_left count count'))) with less | more
  · rcases List.prefix_concat_iff.mp less with same | less
    · exact (congrArg (·.flatten.length) same).ge
    · have short := length_flatten_le less
      omega
  · exact length_flatten_le more

/-- All chunks of the stages before are taken, and they are not enough. -/
def Filling (wanted : Int) (stage : Nat → List (List Item)) (state : Nat × List Item) : Prop :=
  state.2 = (stages stage state.1).flatten ∧ (state.1 = 0 ∨ state.2.length < wanted)

theorem fillRound_again {state next : Nat × List Item} (filling : Filling wanted stage state)
    (round : fillRound wanted stage state = .again next) :
    Filling wanted stage next ∧ next.1 = state.1 + 1 ∧ state.2.length < wanted := by
  obtain ⟨index, taken⟩ := state
  obtain ⟨isTaken, -⟩ := filling
  dsimp only at isTaken
  subst isTaken
  rw [fillRound] at round
  split at round
  · rename_i few
    split at round
    · rename_i filled stageRound
      cases round
      obtain ⟨rfl, short⟩ := fill_again stageRound few
      refine ⟨⟨?_, .inr short⟩, rfl, few⟩
      rw [stages_succ, List.flatten_append]
    · cases round
  · cases round

theorem fillRound_stop {state : Nat × List Item} {items : List Item}
    (filling : Filling wanted stage state)
    (round : fillRound wanted stage state = .stop items) : Fills wanted stage items := by
  obtain ⟨index, taken⟩ := state
  obtain ⟨isTaken, started⟩ := filling
  dsimp only at isTaken
  subst isTaken
  rw [fillRound] at round
  split at round
  · rename_i few
    split at round
    · cases round
    · rename_i filled stageRound
      cases round
      obtain ⟨enough, before, chunk, after, isStage, rfl, short⟩ := fill_stop stageRound few
      rw [← List.flatten_append, ← List.append_assoc] at enough ⊢
      rw [← List.flatten_append] at short
      have isPrefix : stages stage index ++ before ++ [chunk] <+: stages stage (index + 1) := by
        rw [stages_succ, isStage, ← List.append_assoc, List.append_cons _ chunk after]
        exact List.prefix_append _ _
      exact fills_of_first isPrefix short enough
  · rename_i enough
    cases round
    have first : index = 0 := started.resolve_right enough
    subst first
    refine ⟨⟨0, [], List.prefix_rfl, rfl⟩, not_lt.mp enough, fun _ _ _ _ => Nat.zero_le _⟩

/-- What the loop returns. -/
theorem fills_of_loop {fuel : Nat} {items : List Item}
    (runs : loop (fillRound wanted stage) fuel (0, []) = some items) :
    Fills wanted stage items :=
  @loop_invariant _ _ _ (Filling wanted stage) _
    (fun _ _ filling round => (fillRound_again filling round).1)
    (fun _ _ filling round => fillRound_stop filling round) _ _ _ ⟨rfl, .inl rfl⟩ runs

/-- The loop ends if and only if some stages are enough. -/
theorem fillRound_ends_iff : (∃ items, Ends (fillRound wanted stage) (0, []) items) ↔
    ∃ count, wanted ≤ (stages stage count).flatten.length := by
  constructor
  · rintro ⟨items, ends⟩
    obtain ⟨fuel, runs⟩ := ends.returns
    obtain ⟨⟨count, taken, isPrefix, rfl⟩, enough, -⟩ := fills_of_loop runs
    refine ⟨count, enough.trans ?_⟩
    exact_mod_cast length_flatten_le isPrefix
  · rintro ⟨count, enough⟩
    have step (rank : Nat) (state : Nat × List Item)
        (holds : Filling wanted stage state ∧ count - state.1 = rank) :
        (∃ next smaller, fillRound wanted stage state = .again next ∧ smaller < rank ∧
          Filling wanted stage next ∧ count - next.1 = smaller) ∨
          ∃ items, fillRound wanted stage state = .stop items ∧ True := by
      obtain ⟨filling, rfl⟩ := holds
      cases round : fillRound wanted stage state with
      | again next =>
        obtain ⟨filling', isNext, few⟩ := fillRound_again filling round
        refine .inl ⟨next, _, rfl, ?_, filling', rfl⟩
        by_contra past
        have longer := length_flatten_le (@prefix_stages _ stage count state.1 (by omega))
        rw [filling.1] at few
        omega
      | stop items => exact .inr ⟨items, rfl, trivial⟩
    obtain ⟨items, ends, -⟩ := ends_of_invariant step
      (show Filling wanted stage (0, []) ∧ count - 0 = count from ⟨⟨rfl, .inl rfl⟩, rfl⟩)
    exact ⟨items, ends⟩

/-- The loop returns exactly as many items as are wanted if and only if some chunks have so
many. -/
theorem length_fills_iff {items : List Item} (fills : Fills wanted stage items) :
    (items.length : Int) = wanted ↔
      ∃ count, ∃ taken, taken <+: stages stage count ∧ (taken.flatten.length : Int) = wanted := by
  constructor
  · intro isWanted
    obtain ⟨count, taken, isPrefix, rfl⟩ := fills.chunks
    exact ⟨count, taken, isPrefix, isWanted⟩
  · rintro ⟨count, taken, isPrefix, isWanted⟩
    have least := fills.shortest count taken isPrefix isWanted.ge
    have enough := fills.enough
    omega

end Fleetbench.Library
