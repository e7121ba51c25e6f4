/-
This file proves when `GetNextOffset` keeps its list in least-recently-used
order. The block it chooses is the first suitable one, unless a sum overflows
before it is found. If that block is not at the front, all blocks that the
operation accesses move to the end. If it is, it moves alone, and the others
that are accessed stay where they are.
-/

import Fleetbench.Libc.Placement
import Mathlib.Data.List.Nodup

namespace Fleetbench.Libc

/-! ### The order of the list -/

/-- Some blocks of a list have moved to its end, behind the others in their old order. -/
structure MovedToEnd (moves : Int → Bool) (before after : List Int) : Prop where
  perm : after.Perm before
  behind : after.Pairwise fun first second => moves first = true → moves second = true
  others : (after.filter fun block => !moves block) = before.filter fun block => !moves block

section

variable {moves : Int → Bool}

/-- The front block is moved alone. -/
theorem movedToEnd_front_iff {front : Int} {rest : List Int} (isMoved : moves front = true) :
    MovedToEnd moves (front :: rest) (rest ++ [front]) ↔
      rest.Pairwise fun first second => moves first = true → moves second = true := by
  constructor
  · intro moved
    exact (List.pairwise_append.mp moved.behind).1
  · intro ordered
    refine ⟨List.perm_append_singleton _ _, ?_, ?_⟩
    · refine List.pairwise_append.mpr ⟨ordered, List.pairwise_singleton _ _, ?_⟩
      intro first _ second member _
      rw [List.mem_singleton.mp member]
      exact isMoved
    · simp only [List.filter_append, List.filter_cons, isMoved, Bool.not_true, Bool.false_eq_true,
        if_false, List.filter_nil, List.append_nil]

/-- The blocks that move are taken out and put back at the end, in any order. -/
theorem movedToEnd_filter (shuffle : Shuffle) (blocks : List Int) :
    MovedToEnd moves blocks
      ((blocks.filter fun block => !moves block) ++ shuffle.order (blocks.filter moves)) := by
  have back := shuffle.perm (blocks.filter moves)
  have isBack : ∀ block ∈ shuffle.order (blocks.filter moves), moves block = true :=
    fun block member => List.of_mem_filter (back.subset member)
  have isFront : ∀ block ∈ blocks.filter fun block => !moves block, ¬ moves block = true := by
    intro block member isMoved
    have stays := List.of_mem_filter member
    rw [isMoved] at stays
    cases stays
  refine ⟨?_, ?_, ?_⟩
  · refine List.perm_append_comm.trans ((back.append_right _).trans ?_)
    exact List.filter_append_perm moves blocks
  · refine List.pairwise_append.mpr ⟨?_, ?_, fun first _ second member _ => isBack second member⟩
    · exact List.pairwise_of_forall_mem_list fun first member _ _ isMoved =>
        absurd isMoved (isFront first member)
    · exact List.pairwise_of_forall_mem_list fun _ _ second member _ => isBack second member
  · have gone : (shuffle.order (blocks.filter moves)).filter (fun block => !moves block) = [] := by
      refine List.filter_eq_nil_iff.mpr fun block member => ?_
      rw [isBack block member]
      exact Bool.false_ne_true
    rw [List.filter_append, gone, List.append_nil, List.filter_filter]
    simp only [Bool.and_self]

/-- If nothing changes, the one block that should move has to be the last. -/
theorem movedToEnd_self_iff {chosen : Int} {blocks : List Int} (nodup : blocks.Nodup)
    (member : chosen ∈ blocks) (only : ∀ block ∈ blocks, moves block = true ↔ block = chosen) :
    MovedToEnd moves blocks blocks ↔ blocks.getLast? = some chosen := by
  constructor
  · intro moved
    obtain ⟨before, behind, rfl⟩ := List.append_of_mem member
    cases behind with
    | nil => exact List.getLast?_concat
    | cons next rest =>
      have pairs := (List.pairwise_cons.mp (List.pairwise_append.mp moved.behind).2.1).1
      have inside : next ∈ before ++ chosen :: next :: rest :=
        List.mem_append_right _ (List.mem_cons_of_mem _ List.mem_cons_self)
      have same := (only next inside).mp
        (pairs next List.mem_cons_self ((only chosen member).mpr rfl))
      have different := (List.nodup_cons.mp (List.nodup_append.mp nodup).2.1).1
      exact absurd (same ▸ List.mem_cons_self) different
  · intro last
    obtain ⟨before, rfl⟩ := List.getLast?_eq_some_iff.mp last
    have apart := (List.nodup_append.mp nodup).2.2
    refine ⟨.refl _, List.pairwise_append.mpr ⟨?_, List.pairwise_singleton _ _, ?_⟩, rfl⟩
    · refine List.pairwise_of_forall_mem_list fun first isFirst _ _ isMoved => ?_
      have same := (only first (List.mem_append_left _ isFirst)).mp isMoved
      exact absurd same (apart first isFirst chosen List.mem_cons_self)
    · intro first _ second isSecond _
      rw [List.mem_singleton.mp isSecond]
      exact (only chosen member).mpr rfl

end

/-! ### Sums that do not fit -/

/-- The sums that the search forms until it finds a block. -/
def SearchFits (blockOffset sizeBytes bufferSize leftMargin rightMargin : Int)
    (blocks : List Int) : Prop :=
  ∀ block ∈ blocks.takeWhile fun block =>
      ¬ Suitable blockOffset sizeBytes bufferSize leftMargin rightMargin block,
    leftMargin ≤ block → block + blockOffset + sizeBytes + rightMargin ≤ int32Max

section

variable {blockOffset sizeBytes bufferSize leftMargin rightMargin block : Int}

theorem searchFits_cons {rest : List Int}
    (unsuitable : ¬ Suitable blockOffset sizeBytes bufferSize leftMargin rightMargin block) :
    SearchFits blockOffset sizeBytes bufferSize leftMargin rightMargin (block :: rest) ↔
      (leftMargin ≤ block → block + blockOffset + sizeBytes + rightMargin ≤ int32Max) ∧
        SearchFits blockOffset sizeBytes bufferSize leftMargin rightMargin rest := by
  rw [SearchFits, List.takeWhile_cons, if_pos (decide_eq_true unsuitable), List.forall_mem_cons]
  rfl

theorem searchFits_cons_suitable {rest : List Int}
    (suitable : Suitable blockOffset sizeBytes bufferSize leftMargin rightMargin block) :
    SearchFits blockOffset sizeBytes bufferSize leftMargin rightMargin (block :: rest) := by
  rw [SearchFits, List.takeWhile_cons, decide_eq_false (not_not_intro suitable),
    if_neg Bool.false_ne_true]
  exact fun other member => nomatch member

variable (isOffset : 0 ≤ blockOffset) (isSize : 0 ≤ sizeBytes)

include isOffset isSize

theorem searchEnd_overflows (isBlock : 0 ≤ block)
    (large : int32Max < block + blockOffset + sizeBytes + rightMargin) :
    (do add (← operationEnd block blockOffset sizeBytes) rightMargin) = .error .overflow := by
  have tooLarge {first second : Int} (above : int32Max < first + second) :
      add first second = .error .overflow := if_neg fun fits => not_lt_of_ge fits.2 above
  by_cases start : block + blockOffset ≤ int32Max
  · by_cases last : block + blockOffset + sizeBytes ≤ int32Max
    · rw [operationEnd_eq_ok isBlock isOffset isSize last]
      exact tooLarge large
    · rw [operationEnd, add_nonneg_eq_ok isBlock isOffset start]
      show (do add (← add (block + blockOffset) sizeBytes) rightMargin) = _
      rw [tooLarge (not_le.mp last)]
      rfl
  · rw [operationEnd, tooLarge (not_le.mp start)]
    rfl

variable (isMargin : 0 ≤ rightMargin)

include isMargin

theorem searchEnd_eq_ok (isBlock : 0 ≤ block)
    (small : block + blockOffset + sizeBytes + rightMargin ≤ int32Max) :
    (do add (← operationEnd block blockOffset sizeBytes) rightMargin) =
      .ok (block + blockOffset + sizeBytes + rightMargin) := by
  rw [operationEnd_eq_ok isBlock isOffset isSize (by omega)]
  exact add_nonneg_eq_ok (by omega) isMargin small

/-- The search finds the first suitable block, or a sum overflows before. -/
theorem findBlock_cases (isBuffer : bufferSize ≤ int32Max) {blocks : List Int}
    (isBlock : ∀ block ∈ blocks, 0 ≤ block) :
    (SearchFits blockOffset sizeBytes bufferSize leftMargin rightMargin blocks ∧
      findBlock blockOffset sizeBytes bufferSize leftMargin rightMargin blocks =
        .ok (blocks.find? fun block =>
          Suitable blockOffset sizeBytes bufferSize leftMargin rightMargin block)) ∨
    (¬ SearchFits blockOffset sizeBytes bufferSize leftMargin rightMargin blocks ∧
      findBlock blockOffset sizeBytes bufferSize leftMargin rightMargin blocks =
        .error .overflow) := by
  induction blocks with
  | nil => exact .inl ⟨fun block member => (nomatch member), rfl⟩
  | cons block rest inductionHypothesis =>
    have isFirst := isBlock block List.mem_cons_self
    have others := inductionHypothesis fun other member =>
      isBlock other (List.mem_cons_of_mem _ member)
    have search : findBlock blockOffset sizeBytes bufferSize leftMargin rightMargin
        (block :: rest) =
        if leftMargin ≤ block then do
          let last ← (do add (← operationEnd block blockOffset sizeBytes) rightMargin)
          if last ≤ bufferSize then return some block
          else findBlock blockOffset sizeBytes bufferSize leftMargin rightMargin rest
        else findBlock blockOffset sizeBytes bufferSize leftMargin rightMargin rest := by
      rw [findBlock]
      cases operationEnd block blockOffset sizeBytes <;> rfl
    rw [search, List.find?_cons]
    by_cases suitable : Suitable blockOffset sizeBytes bufferSize leftMargin rightMargin block
    · refine .inl ⟨searchFits_cons_suitable suitable, ?_⟩
      rw [if_pos suitable.1, searchEnd_eq_ok isOffset isSize isMargin isFirst
        (le_trans suitable.2 isBuffer), decide_eq_true suitable]
      exact if_pos suitable.2
    · rw [searchFits_cons suitable, decide_eq_false suitable]
      by_cases left : leftMargin ≤ block
      · rw [if_pos left]
        by_cases small : block + blockOffset + sizeBytes + rightMargin ≤ int32Max
        · have right : ¬ block + blockOffset + sizeBytes + rightMargin ≤ bufferSize :=
            fun right => suitable ⟨left, right⟩
          rw [searchEnd_eq_ok isOffset isSize isMargin isFirst small]
          show (_ ∧ (if _ then _ else _) = _) ∨ _ ∧ (if _ then _ else _) = _
          rw [if_neg right, and_iff_right (fun _ => small)]
          exact others
        · refine .inr ⟨fun both => small (both.1 left), ?_⟩
          rw [searchEnd_overflows isOffset isSize isFirst (not_le.mp small)]
          rfl
      · rw [if_neg left, and_iff_right (fun low => absurd low left)]
        exact others

end

/-! ### The law -/

/-- The block is the chosen one, or accessed by an operation that ends at `last`. -/
def accessed (chosen last block : Int) : Bool := block = chosen ∨ chosen ≤ block ∧ block < last

/-- The accessed blocks end up behind the others: those in the list behind a front block that is
chosen are already there, and another chosen block is accessed or already the last. -/
def AccessedBehind (blockOffset sizeBytes : Int) (blocksLru : List Int) (chosen : Int) : Prop :=
  if blocksLru.head? = some chosen then
    blocksLru.tail.Pairwise fun first second =>
      accessed chosen (chosen + blockOffset + sizeBytes) first = true →
        accessed chosen (chosen + blockOffset + sizeBytes) second = true
  else 0 < blockOffset + sizeBytes ∨ blocksLru.getLast? = some chosen

theorem movedToEnd_moveToBack_iff (shuffle : Shuffle) {blockOffset sizeBytes chosen : Int}
    {blocksLru : List Int}
    (nodup : blocksLru.Nodup) (member : chosen ∈ blocksLru) :
    MovedToEnd (accessed chosen (chosen + blockOffset + sizeBytes)) blocksLru
        (moveToBack shuffle blocksLru chosen (chosen + blockOffset + sizeBytes)) ↔
      AccessedBehind blockOffset sizeBytes blocksLru chosen := by
  have isAccessed : accessed chosen (chosen + blockOffset + sizeBytes) chosen = true :=
    decide_eq_true (.inl rfl)
  rw [moveToBack, AccessedBehind]
  by_cases front : blocksLru.head? = some chosen
  · rw [if_pos front, if_pos front]
    cases blocksLru with
    | nil => cases member
    | cons first rest =>
      obtain rfl : first = chosen := Option.some.inj front
      exact movedToEnd_front_iff isAccessed
  · rw [if_neg front, if_neg front]
    by_cases spans : 0 < blockOffset + sizeBytes
    · have same : (fun block => decide (chosen ≤ block ∧
          block < chosen + blockOffset + sizeBytes)) =
          accessed chosen (chosen + blockOffset + sizeBytes) :=
        funext fun block => decide_eq_decide.mpr (by omega)
      refine iff_of_true ?_ (.inl spans)
      have base := @movedToEnd_filter (accessed chosen (chosen + blockOffset + sizeBytes)) shuffle
        blocksLru
      rw [← same] at base ⊢
      exact base
    · have none : ∀ block : Int, ¬ (chosen ≤ block ∧ block < chosen + blockOffset + sizeBytes) :=
        fun block => by omega
      have empty : (fun block => decide (chosen ≤ block ∧
          block < chosen + blockOffset + sizeBytes)) = fun _ => false :=
        funext fun block => decide_eq_false (none block)
      have kept : (fun block => !decide (chosen ≤ block ∧
          block < chosen + blockOffset + sizeBytes)) = fun _ => true :=
        funext fun block => congrArg not (decide_eq_false (none block))
      have shuffled : shuffle.order [] = [] := (shuffle.perm []).eq_nil
      rw [kept, empty, List.filter_true, List.filter_false, shuffled, List.append_nil,
        or_iff_right spans]
      refine movedToEnd_self_iff nodup member fun block _ => ?_
      rw [accessed, decide_eq_true_iff, or_iff_left (none block)]

/-- `GetNextOffset` chooses the first suitable block, and the blocks that are accessed move to the
end of the list. -/
def LruLaw (shuffle : Shuffle) (blocksLru : List Int)
    (sizeBytes blockOffset bufferSize leftMargin rightMargin : Int) : Prop :=
  ∃ chosen next,
    getNextOffset shuffle blocksLru sizeBytes blockOffset bufferSize leftMargin rightMargin =
      .ok (chosen + blockOffset, next) ∧
    (blocksLru.find? fun block =>
      Suitable blockOffset sizeBytes bufferSize leftMargin rightMargin block) = some chosen ∧
    MovedToEnd (accessed chosen (chosen + blockOffset + sizeBytes)) blocksLru next

theorem nodup_allBlocks (bufferSize : Nat) : (allBlocks bufferSize).Nodup := by
  refine List.Nodup.map (fun first second same => ?_) List.nodup_range
  rw [kCacheLineSize] at same
  omega

/-- The law holds exactly if no sum overflows in the search and the accessed blocks end up behind
the others. -/
theorem lruLaw_iff (shuffle : Shuffle) {bufferSize : Nat}
    (isBuffer : (bufferSize : Int) ≤ int32Max) {blocksLru : List Int}
    (perm : blocksLru.Perm (allBlocks bufferSize))
    {sizeBytes blockOffset leftMargin rightMargin : Int} (isOffset : 0 ≤ blockOffset)
    (isSize : 0 ≤ sizeBytes) (isMargin : 0 ≤ rightMargin)
    (fits : ∃ block ∈ blocksLru,
      Suitable blockOffset sizeBytes bufferSize leftMargin rightMargin block) :
    LruLaw shuffle blocksLru sizeBytes blockOffset bufferSize leftMargin rightMargin ↔
      SearchFits blockOffset sizeBytes bufferSize leftMargin rightMargin blocksLru ∧
        ∀ chosen, (blocksLru.find? fun block =>
            Suitable blockOffset sizeBytes bufferSize leftMargin rightMargin block) =
              some chosen → AccessedBehind blockOffset sizeBytes blocksLru chosen := by
  obtain ⟨candidate, isCandidate, candidateFits⟩ := fits
  have isSome : (blocksLru.find? fun block =>
      Suitable blockOffset sizeBytes bufferSize leftMargin rightMargin block).isSome = true :=
    List.find?_isSome.mpr ⟨candidate, isCandidate, decide_eq_true candidateFits⟩
  obtain ⟨chosen, isFound⟩ := Option.isSome_iff_exists.mp isSome
  have member := List.mem_of_find?_eq_some isFound
  have suitable := List.find?_some isFound
  rw [decide_eq_true_iff] at suitable
  have isBlock : ∀ block ∈ blocksLru, 0 ≤ block := by
    intro block inside
    obtain ⟨index, rfl, -⟩ := mem_allBlocks.mp (perm.subset inside)
    omega
  have nodup : blocksLru.Nodup := perm.nodup_iff.mpr (nodup_allBlocks bufferSize)
  rcases findBlock_cases isOffset isSize isMargin isBuffer isBlock with
    ⟨searches, found⟩ | ⟨overflows, found⟩
  · have last : chosen + blockOffset + sizeBytes ≤ bufferSize := by
      have ends := suitable.2
      omega
    have result : getNextOffset shuffle blocksLru sizeBytes blockOffset bufferSize leftMargin
        rightMargin = .ok (chosen + blockOffset,
          moveToBack shuffle blocksLru chosen (chosen + blockOffset + sizeBytes)) := by
      rw [getNextOffset, found, isFound]
      show (do
        let last ← operationEnd chosen blockOffset sizeBytes
        if last ≤ bufferSize then
          return (← add chosen blockOffset, moveToBack shuffle blocksLru chosen last)
        else throw Stop.check) = _
      rw [operationEnd_eq_ok (isBlock chosen member) isOffset isSize (le_trans last isBuffer)]
      show (if chosen + blockOffset + sizeBytes ≤ bufferSize then _ else _) = _
      rw [if_pos last, add_nonneg_eq_ok (isBlock chosen member) isOffset (by omega)]
      rfl
    have moves := @movedToEnd_moveToBack_iff shuffle blockOffset sizeBytes _ _ nodup member
    rw [LruLaw, result, isFound, and_iff_right searches]
    constructor
    · rintro ⟨other, next, same, isOther, moved⟩ chosen' isChosen
      cases isOther
      cases isChosen
      cases same
      exact moves.mp moved
    · intro behind
      exact ⟨chosen, _, rfl, rfl, moves.mpr (behind chosen rfl)⟩
  · refine iff_of_false ?_ fun both => overflows both.1
    rintro ⟨other, next, result, -⟩
    rw [getNextOffset, found] at result
    cases result

/-- A block that is not at the front, with an operation that spans two. -/
theorem lruLaw_iff_second : LruLaw .identity [192, 64, 0, 128] 100 5 256 0 0 := by
  refine (@lruLaw_iff .identity 256 (by decide) [192, 64, 0, 128] (by decide) 100 5 0 0 (by decide)
    (by decide) (by decide) ⟨64, by decide, by decide⟩).mpr ⟨?_, fun chosen isFound => ?_⟩
  · unfold SearchFits
    decide
  · obtain rfl : 64 = chosen := Option.some.inj isFound
    exact .inl (by decide)

/-- An operation of a hundred bytes at the front accesses two blocks. The second stays in front of
the others. -/
theorem not_lruLaw_front :
    getNextOffset .identity [0, 64, 128, 192] 100 0 256 0 0 = .ok (0, [64, 128, 192, 0]) ∧
      ¬ LruLaw .identity [0, 64, 128, 192] 100 0 256 0 0 := by
  have result : getNextOffset .identity [0, 64, 128, 192] 100 0 256 0 0 =
    .ok (0, [64, 128, 192, 0]) := rfl
  refine ⟨result, ?_⟩
  rintro ⟨chosen, next, same, isFound, moved⟩
  obtain rfl : 0 = chosen := Option.some.inj isFound
  obtain rfl : [64, 128, 192, 0] = next :=
    congrArg Prod.snd (Except.ok.inj (result.symm.trans same))
  exact absurd moved.behind (by decide)

end Fleetbench.Libc
