/-
This file proves that `ReadMore` does not care where its input is cut: reading
two installments is reading their concatenation. It follows that the parser is
a decoder in the sense of the library, one that reads byte by byte and stops
behind the header.
-/

import Fleetbench.Compression.GzipHeader
import Fleetbench.Library.Decoder
import Mathlib.Data.Nat.Init

namespace Fleetbench.Compression.GZipHeader

open Library

/-! ### The loop, one iteration at a time -/

theorem readLoop_returned {header : GZipHeader} {byte : UInt8} {rest : List UInt8}
    {status : Status} (run : header.iterate byte rest = .returned status) :
    header.readLoop (byte :: rest) = (header, status) := by
  rw [readLoop]
  split
  · rename_i run'
    cases run.symm.trans run'
    rfl
  · rename_i run'
    cases run.symm.trans run'

theorem readLoop_again {header after : GZipHeader} {byte : UInt8} {rest left : List UInt8}
    (run : header.iterate byte rest = .again after left) :
    header.readLoop (byte :: rest) = after.readLoop left := by
  rw [readLoop]
  split
  · rename_i run'
    cases run.symm.trans run'
  · rename_i run'
    cases run.symm.trans run'
    rfl

/-- The test behind the loop. -/
def Finished (header : GZipHeader) : Prop :=
  State.inHeaderOs.value < header.state.value ∧ header.flags = 0

theorem readLoop_nil_of_finished {header : GZipHeader} (finished : header.Finished) :
    header.readLoop [] = (header, .completeHeader []) := by
  rw [readLoop]
  exact if_pos finished

theorem readLoop_nil_of_not_finished {header : GZipHeader} (unfinished : ¬ header.Finished) :
    header.readLoop [] = (header, .incompleteHeader) := by
  rw [readLoop]
  exact if_neg unfinished

/-! ### Fields that may be cut -/

theorem toNat_extraLength_sub {extraLength : UInt16} {count : Nat}
    (bounded : count ≤ extraLength.toNat) :
    (extraLength - UInt16.ofNat count).toNat = extraLength.toNat - count := by
  have same : (UInt16.ofNat count).toNat = count :=
    UInt16.toNat_ofNat_of_lt' (Nat.lt_of_le_of_lt bounded extraLength.toNat_lt)
  rw [UInt16.toNat_sub_of_le, same]
  rw [UInt16.le_iff_toNat_le, same]
  exact bounded

theorem extraLength_sub_eq_zero_iff {extraLength : UInt16} {count : Nat}
    (bounded : count ≤ extraLength.toNat) :
    extraLength - UInt16.ofNat count = 0 ↔ extraLength.toNat = count := by
  rw [← UInt16.toNat_inj, toNat_extraLength_sub bounded]
  show extraLength.toNat - count = 0 ↔ _
  omega

theorem extraLength_sub_add {extraLength : UInt16} {first second : Nat}
    (bounded : first + second ≤ extraLength.toNat) :
    extraLength - UInt16.ofNat (first + second) =
      extraLength - UInt16.ofNat first - UInt16.ofNat second := by
  have front := toNat_extraLength_sub (Nat.le_of_add_right_le bounded)
  refine UInt16.toNat_inj.mp ?_
  rw [toNat_extraLength_sub bounded, toNat_extraLength_sub, front, Nat.sub_add_eq]
  omega

/-- The extra field ends here, -/
theorem readExtra_of_le {header : GZipHeader} {rest : List UInt8}
    (present : header.extraLength.toNat ≤ rest.length) :
    header.readExtra rest =
      .again ⟨.inFname, header.flags &&& ~~~flagFextra, 0⟩
        (rest.drop header.extraLength.toNat) := by
  rw [readExtra]
  rw [Nat.min_eq_left present, UInt16.ofNat_toNat, UInt16.sub_self, if_pos rfl]

/-- or goes on behind the installment. -/
theorem readExtra_of_lt {header : GZipHeader} {rest : List UInt8}
    (cut : rest.length < header.extraLength.toNat) :
    header.readExtra rest =
      .again { header with extraLength := header.extraLength - UInt16.ofNat rest.length } [] := by
  rw [readExtra]
  rw [Nat.min_eq_right (Nat.le_of_lt cut), List.drop_length, if_neg]
  rw [extraLength_sub_eq_zero_iff (Nat.le_of_lt cut)]
  exact Nat.ne_of_gt cut

/-- Where an installment ends inside the extra field, the next one goes on with the field. -/
theorem readExtra_append {header after : GZipHeader} {rest left : List UInt8}
    (read : header.readExtra rest = .again after left) (more : List UInt8) :
    header.readExtra (rest ++ more) = .again after (left ++ more) ∨
      left = [] ∧ after.state = header.state ∧
        header.readExtra (rest ++ more) = after.readExtra more := by
  by_cases cut : rest.length < header.extraLength.toNat
  · refine Or.inr ?_
    rw [readExtra_of_lt cut, Iteration.again.injEq] at read
    obtain ⟨rfl, rfl⟩ := read
    have remaining := toNat_extraLength_sub (Nat.le_of_lt cut)
    refine ⟨rfl, rfl, ?_⟩
    by_cases again : (rest ++ more).length < header.extraLength.toNat
    · rw [readExtra_of_lt again, readExtra_of_lt]
      · rw [List.length_append, extraLength_sub_add (by rw [← List.length_append]; omega)]
      · rw [List.length_append] at again
        show more.length < (header.extraLength - UInt16.ofNat rest.length).toNat
        omega
    · rw [List.length_append] at again
      rw [readExtra_of_le (by rw [List.length_append]; omega), readExtra_of_le]
      · show Iteration.again _ _ =
          .again _ (more.drop (header.extraLength - UInt16.ofNat rest.length).toNat)
        rw [remaining, List.drop_append, List.drop_eq_nil_of_le (Nat.le_of_lt cut)]
        rfl
      · show (header.extraLength - UInt16.ofNat rest.length).toNat ≤ more.length
        omega
  · have present : header.extraLength.toNat ≤ rest.length := Nat.le_of_not_lt cut
    refine Or.inl ?_
    rw [readExtra_of_le present, Iteration.again.injEq] at read
    obtain ⟨rfl, rfl⟩ := read
    rw [readExtra_of_le (by rw [List.length_append]; omega),
      List.drop_append_of_le_length present]

theorem readString_append {flag : UInt8} {behind : State} {header after : GZipHeader}
    {rest left : List UInt8} (read : header.readString flag behind rest = .again after left)
    (more : List UInt8) :
    header.readString flag behind (rest ++ more) = .again after (left ++ more) ∨
      left = [] ∧ after = header ∧
        header.readString flag behind (rest ++ more) = header.readString flag behind more := by
  unfold readString at read ⊢
  by_cases absent : header.flags &&& flag = 0
  · rw [if_pos absent, Iteration.again.injEq] at read
    obtain ⟨rfl, rfl⟩ := read
    exact Or.inl (if_pos absent)
  · rw [if_neg absent] at read
    rw [if_neg absent, if_neg absent, List.dropWhile_append]
    cases found : rest.dropWhile (· ≠ 0) with
    | nil =>
      rw [found] at read
      obtain ⟨rfl, rfl⟩ : header = after ∧ [] = left := by
        simpa only [Iteration.again.injEq] using read
      exact Or.inr ⟨rfl, rfl, by rw [List.isEmpty_nil, if_pos rfl]⟩
    | cons zero beyond =>
      rw [found] at read
      obtain ⟨rfl, rfl⟩ : _ = after ∧ beyond = left := by
        simpa only [Iteration.again.injEq] using read
      exact Or.inl rfl

theorem readExtra_again (header : GZipHeader) (rest : List UInt8) :
    ∃ after left, header.readExtra rest = .again after left := by
  rw [readExtra]
  split
  · exact ⟨_, _, rfl⟩
  · exact ⟨_, _, rfl⟩

theorem readString_again (flag : UInt8) (behind : State) (header : GZipHeader)
    (rest : List UInt8) : ∃ after left, header.readString flag behind rest = .again after left := by
  rw [readString]
  split
  · exact ⟨_, _, rfl⟩
  · split
    · exact ⟨_, _, rfl⟩
    · exact ⟨_, _, rfl⟩

/-! ### Cutting the input -/

/-- The body of the loop does the same when more input follows, or it ran out of input and goes
on with the same field. -/
theorem iterate_append {header after : GZipHeader} {byte : UInt8} {rest left : List UInt8}
    (run : header.iterate byte rest = .again after left) (more : List UInt8) :
    header.iterate byte (rest ++ more) = .again after (left ++ more) ∨
      left = [] ∧ ∀ next others, more = next :: others →
        ∃ final beyond, header.iterate byte (rest ++ more) = .again final beyond ∧
          after.iterate next others = .again final beyond := by
  have advanced {current : GZipHeader} (run : current.advance rest = .again after left) :
      current.advance (rest ++ more) = .again after (left ++ more) := by
    obtain ⟨rfl, rfl⟩ : _ = after ∧ _ = left := by
      simpa only [advance, Iteration.again.injEq] using run
    rfl
  have stayed {current : GZipHeader}
      (run : Iteration.again current (byte :: rest) = .again after left) :
      Iteration.again current (byte :: (rest ++ more)) = .again after (left ++ more) := by
    obtain ⟨rfl, rfl⟩ : _ = after ∧ _ = left := by simpa only [Iteration.again.injEq] using run
    rfl
  obtain ⟨state, flags, extraLength⟩ := header
  cases state
  case inHeaderId1 | inHeaderId2 | inHeaderCm =>
    simp only [iterate] at run ⊢
    split at run
    · cases run
    · rename_i wanted
      exact Or.inl ((if_neg wanted).trans (advanced run))
  case inXlenByte0 | inFhcrcByte0 =>
    simp only [iterate] at run ⊢
    split at run
    · rename_i absent
      exact Or.inl ((if_pos absent).trans (stayed run))
    · rename_i present
      exact Or.inl ((if_neg present).trans (advanced run))
  case inXlenByte1 | inFextra =>
    rcases readExtra_append run more with whole | ⟨cut, inExtra, continued⟩
    · exact Or.inl whole
    · refine Or.inr ⟨cut, fun next others split => ?_⟩
      obtain ⟨final, beyond, read⟩ := readExtra_again after more
      refine ⟨final, beyond, continued.trans read, ?_⟩
      rw [iterate, inExtra, ← split]
      exact read
  case inFname | inFcomment =>
    rcases readString_append run more with whole | ⟨cut, rfl, continued⟩
    · exact Or.inl whole
    · refine Or.inr ⟨cut, fun next others split => ?_⟩
      subst split
      obtain ⟨final, beyond, read⟩ := readString_again _ _ _ _
      exact ⟨final, beyond, continued.trans read, read⟩
  case inDone => cases run
  all_goals exact Or.inl (advanced run)

theorem iterate_returned {header : GZipHeader} {byte : UInt8} {rest : List UInt8}
    {status : Status} (run : header.iterate byte rest = .returned status) :
    (status = .invalidHeader ∧ ∀ others, header.iterate byte others = .returned .invalidHeader) ∨
      (header.state = .inDone ∧ status = .completeHeader (byte :: rest) ∧
        ∀ others, header.iterate byte others = .returned (.completeHeader (byte :: others))) := by
  have never {before after : GZipHeader} {rest left : List UInt8}
      (run : before.iterate byte rest = .returned status)
      (again : before.iterate byte rest = .again after left) : False := by
    cases run.symm.trans again
  obtain ⟨state, flags, extraLength⟩ := header
  cases state
  case inHeaderId1 | inHeaderId2 | inHeaderCm =>
    simp only [iterate] at run ⊢
    split at run
    · rename_i wrong
      cases run
      exact Or.inl ⟨rfl, fun _ => if_pos wrong⟩
    · cases run
  case inXlenByte0 | inFhcrcByte0 =>
    simp only [iterate] at run
    split at run <;> cases run
  case inXlenByte1 | inFextra =>
    obtain ⟨after, left, read⟩ := readExtra_again _ _
    exact (never run read).elim
  case inFname | inFcomment =>
    obtain ⟨after, left, read⟩ := readString_again _ _ _ _
    exact (never run read).elim
  case inDone =>
    cases run
    exact Or.inr ⟨rfl, rfl, fun _ => rfl⟩
  all_goals cases run

theorem readLoop_append_again {header after : GZipHeader} {byte : UInt8}
    {rest left : List UInt8} (run : header.iterate byte rest = .again after left)
    (more : List UInt8) :
    header.readLoop (byte :: (rest ++ more)) = after.readLoop (left ++ more) := by
  rcases iterate_append run more with whole | ⟨rfl, cut⟩
  · exact readLoop_again whole
  · cases more with
    | nil =>
      rw [List.append_nil]
      exact readLoop_again run
    | cons next others =>
      obtain ⟨final, beyond, whole, continued⟩ := cut next others rfl
      rw [readLoop_again whole, List.nil_append, readLoop_again continued]

/-! ### States of the parser -/

/-- The bits of `flags_` that have a definite value in a state: the ones `ReadMore` does not keep
and those of the fields up to this one. -/
def State.settled : State → UInt8
  | .inXlenByte1 | .inFextra | .inFname => ~~~knownFlags ||| flagFextra
  | .inFcomment => ~~~knownFlags ||| flagFextra ||| flagFname
  | .inFhcrcByte0 => ~~~knownFlags ||| flagFextra ||| flagFname ||| flagFcomment
  | .inFhcrcByte1 | .inDone =>
    ~~~knownFlags ||| flagFextra ||| flagFname ||| flagFcomment ||| flagFhcrc
  | _ => ~~~knownFlags

/-- The value of these bits: the flag of a field that is being read is still set. -/
def State.expected : State → UInt8
  | .inXlenByte1 | .inFextra => flagFextra
  | .inFhcrcByte1 => flagFhcrc
  | _ => 0

structure Sound (header : GZipHeader) : Prop where
  flags : header.flags &&& header.state.settled = header.state.expected
  extraLength : header.state = .inFextra → header.extraLength ≠ 0

section Flags

variable {flags settled flag : UInt8}

theorem and_settled_or (flags settled flag : UInt8) :
    flags &&& (settled ||| flag) = flags &&& settled ||| flags &&& flag :=
  UInt8.toBitVec_inj.mp BitVec.and_or_distrib_left

theorem flags_absent (before : flags &&& settled = 0) (absent : flags &&& flag = 0) :
    flags &&& (settled ||| flag) = 0 := by
  rw [and_settled_or, before, absent, UInt8.or_zero]

theorem flags_present (before : flags &&& settled = 0) (present : flags &&& flag = flag) :
    flags &&& (settled ||| flag) = flag := by
  rw [and_settled_or, before, present, UInt8.zero_or]

theorem flags_ended (before : flags &&& settled = flag) :
    (flags &&& ~~~flag) &&& settled = 0 := by
  rw [UInt8.and_assoc, UInt8.and_comm (~~~flag), ← UInt8.and_assoc, before, UInt8.and_not_self]

theorem flags_cleared (before : flags &&& settled = 0) :
    (flags &&& ~~~flag) &&& (settled ||| flag) = 0 := by
  refine flags_absent ?_ ?_
  · rw [UInt8.and_assoc, UInt8.and_comm (~~~flag), ← UInt8.and_assoc, before, UInt8.zero_and]
  · rw [UInt8.and_assoc, UInt8.not_and_self, UInt8.and_zero]

theorem flags_masked (byte : UInt8) : (byte &&& knownFlags) &&& ~~~knownFlags = 0 := by
  rw [UInt8.and_assoc, UInt8.and_not_self, UInt8.and_zero]

theorem and_eq_of_bit (single : ∀ value : Fin 256,
      UInt8.ofFin value &&& flag = 0 ∨ UInt8.ofFin value &&& flag = flag)
    (present : flags &&& flag ≠ 0) : flags &&& flag = flag :=
  (single flags.toFin).resolve_left present

end Flags

theorem advance_eq {header after : GZipHeader} {rest left : List UInt8}
    (run : header.advance rest = .again after left) :
    after = { header with state := header.state.next } ∧ left = rest := by
  rw [advance, Iteration.again.injEq] at run
  exact ⟨run.1.symm, run.2.symm⟩

theorem sound_readExtra {header after : GZipHeader} {rest left : List UInt8}
    (state : header.state = .inFextra)
    (flags : header.flags &&& (~~~knownFlags ||| flagFextra) = flagFextra)
    (read : header.readExtra rest = .again after left) : after.Sound := by
  by_cases cut : rest.length < header.extraLength.toNat
  · rw [readExtra_of_lt cut, Iteration.again.injEq] at read
    obtain ⟨rfl, rfl⟩ := read
    refine ⟨by rw [state]; exact flags, fun _ none => ?_⟩
    rw [extraLength_sub_eq_zero_iff (Nat.le_of_lt cut)] at none
    exact absurd none (Nat.ne_of_gt cut)
  · rw [readExtra_of_le (Nat.le_of_not_lt cut), Iteration.again.injEq] at read
    obtain ⟨rfl, rfl⟩ := read
    exact ⟨flags_ended flags, fun impossible => by cases impossible⟩

theorem sound_readString {flag : UInt8} {behind : State} {header after : GZipHeader}
    {rest left : List UInt8} (sound : header.Sound)
    (settled : behind.settled = header.state.settled ||| flag)
    (expected : header.state.expected = 0 ∧ behind.expected = 0) (later : behind ≠ .inFextra)
    (read : header.readString flag behind rest = .again after left) : after.Sound := by
  have before := sound.flags
  rw [expected.1] at before
  rw [readString] at read
  split at read
  · rename_i absent
    rw [Iteration.again.injEq] at read
    obtain ⟨rfl, rfl⟩ := read
    refine ⟨?_, fun state => absurd state later⟩
    show header.flags &&& behind.settled = behind.expected
    rw [settled, expected.2]
    exact flags_absent before absent
  · split at read
    · rw [Iteration.again.injEq] at read
      obtain ⟨rfl, rfl⟩ := read
      refine ⟨?_, fun state => absurd state later⟩
      show (header.flags &&& ~~~flag) &&& behind.settled = behind.expected
      rw [settled, expected.2]
      exact flags_cleared before
    · rw [Iteration.again.injEq] at read
      exact read.1 ▸ sound

theorem sound_iterate {header after : GZipHeader} {byte : UInt8} {rest left : List UInt8}
    (sound : header.Sound) (run : header.iterate byte rest = .again after left) :
    after.Sound := by
  obtain ⟨state, flags, extraLength⟩ := header
  have before := sound.flags
  cases state
  case inHeaderId1 | inHeaderId2 | inHeaderCm =>
    simp only [iterate] at run
    split at run
    · cases run
    · obtain ⟨rfl, -⟩ := advance_eq run
      exact ⟨before, fun impossible => by cases impossible⟩
  case inHeaderFlg =>
    obtain ⟨rfl, -⟩ := advance_eq run
    exact ⟨flags_masked byte, fun impossible => by cases impossible⟩
  case inXlenByte0 =>
    simp only [iterate] at run
    split at run
    · rename_i absent
      cases run
      exact ⟨flags_absent before absent, fun impossible => by cases impossible⟩
    · rename_i present
      obtain ⟨rfl, -⟩ := advance_eq run
      exact ⟨flags_present before (and_eq_of_bit (by decide +kernel) present),
        fun impossible => by cases impossible⟩
  case inXlenByte1 =>
    refine sound_readExtra ?_ ?_ run
    · rfl
    · exact before
  case inFextra => exact sound_readExtra rfl before run
  case inFname | inFcomment => exact sound_readString sound rfl ⟨rfl, rfl⟩ (by decide) run
  case inFhcrcByte0 =>
    simp only [iterate] at run
    split at run
    · rename_i absent
      cases run
      exact ⟨flags_absent before absent, fun impossible => by cases impossible⟩
    · rename_i present
      obtain ⟨rfl, -⟩ := advance_eq run
      exact ⟨flags_present before (and_eq_of_bit (by decide +kernel) present),
        fun impossible => by cases impossible⟩
  case inFhcrcByte1 =>
    obtain ⟨rfl, -⟩ := advance_eq run
    exact ⟨flags_ended before, fun impossible => by cases impossible⟩
  case inDone => cases run
  all_goals
    obtain ⟨rfl, -⟩ := advance_eq run
    exact ⟨before, fun impossible => by cases impossible⟩

/-- Behind a header without pending fields the loop reads nothing. -/
theorem readLoop_of_finished {header : GZipHeader} (sound : header.Sound)
    (finished : header.Finished) (rest : List UInt8) :
    (header.readLoop rest).2 = .completeHeader rest := by
  cases rest with
  | nil => rw [readLoop_nil_of_finished finished]
  | cons byte rest =>
    obtain ⟨state, flags, extraLength⟩ := header
    obtain ⟨behind, cleared⟩ := finished
    simp only at behind cleared
    subst cleared
    have skipped (current behind : State)
        (run : iterate ⟨current, 0, extraLength⟩ byte rest =
          .again ⟨behind, 0, extraLength⟩ (byte :: rest))
        (later : (readLoop ⟨behind, 0, extraLength⟩ (byte :: rest)).2 =
          .completeHeader (byte :: rest)) :
        (readLoop ⟨current, 0, extraLength⟩ (byte :: rest)).2 = .completeHeader (byte :: rest) := by
      rw [readLoop_again run]
      exact later
    have done : (readLoop ⟨.inDone, 0, extraLength⟩ (byte :: rest)).2 =
        .completeHeader (byte :: rest) := by
      rw [readLoop_returned rfl]
    have fhcrc := skipped .inFhcrcByte0 .inDone (if_pos UInt8.zero_and) done
    have fcomment := skipped .inFcomment .inFhcrcByte0 (if_pos UInt8.zero_and) fhcrc
    have fname := skipped .inFname .inFcomment (if_pos UInt8.zero_and) fcomment
    cases state
    case inXlenByte0 => exact skipped .inXlenByte0 .inFname (if_pos UInt8.zero_and) fname
    case inXlenByte1 =>
      exact absurd (UInt8.zero_and.symm.trans sound.flags) (by simp [State.expected, flagFextra])
    case inFextra =>
      exact absurd (UInt8.zero_and.symm.trans sound.flags) (by simp [State.expected, flagFextra])
    case inFhcrcByte1 =>
      exact absurd (UInt8.zero_and.symm.trans sound.flags) (by simp [State.expected, flagFhcrc])
    case inFname => exact fname
    case inFcomment => exact fcomment
    case inFhcrcByte0 => exact fhcrc
    case inDone => exact done
    all_goals exact absurd behind (by decide)

/-! ### A header has a last byte -/

theorem finished_of_done {header : GZipHeader} (sound : header.Sound)
    (done : header.state = .inDone) : header.Finished := by
  have flags := sound.flags
  rw [done] at flags
  have all : State.inDone.settled = -1 := by decide
  rw [all, UInt8.and_neg_one] at flags
  exact ⟨by rw [done]; decide, flags⟩

theorem readExtra_left {header after : GZipHeader} {rest left : List UInt8} (present : rest ≠ [])
    (pending : header.extraLength ≠ 0) (read : header.readExtra rest = .again after left) :
    left.length < rest.length := by
  have some := List.length_pos_iff.mpr present
  by_cases cut : rest.length < header.extraLength.toNat
  · rw [readExtra_of_lt cut, Iteration.again.injEq] at read
    obtain ⟨rfl, rfl⟩ := read
    exact some
  · rw [readExtra_of_le (Nat.le_of_not_lt cut), Iteration.again.injEq] at read
    obtain ⟨rfl, rfl⟩ := read
    have positive : header.extraLength.toNat ≠ 0 := fun zero => pending (UInt16.toNat_inj.mp zero)
    rw [List.length_drop]
    omega

theorem readString_left {flag : UInt8} {behind : State} {header after : GZipHeader}
    {rest left : List UInt8} (present : rest ≠ [])
    (read : header.readString flag behind rest = .again after left) :
    (left = rest ∧ after.flags = header.flags) ∨ left.length < rest.length := by
  have some := List.length_pos_iff.mpr present
  have shorter := length_dropWhile_le rest (· ≠ 0)
  rw [readString] at read
  split at read
  · rw [Iteration.again.injEq] at read
    obtain ⟨rfl, rfl⟩ := read
    exact Or.inl ⟨rfl, rfl⟩
  · split at read
    · rename_i found
      rw [Iteration.again.injEq] at read
      obtain ⟨rfl, rfl⟩ := read
      rw [found, List.length_cons] at shorter
      exact Or.inr shorter
    · rw [Iteration.again.injEq] at read
      obtain ⟨rfl, rfl⟩ := read
      exact Or.inr some

/-- An iteration reads a byte, or it skips a field that is absent. -/
theorem iterate_left {header after : GZipHeader} {byte : UInt8} {rest left : List UInt8}
    (sound : header.Sound) (run : header.iterate byte rest = .again after left) :
    left.length ≤ rest.length ∨
      left = byte :: rest ∧ after.flags = header.flags ∧
        State.inHeaderOs.value < header.state.value := by
  obtain ⟨state, flags, extraLength⟩ := header
  cases state
  case inHeaderId1 | inHeaderId2 | inHeaderCm =>
    simp only [iterate] at run
    split at run
    · cases run
    · exact Or.inl (Nat.le_of_eq (congrArg List.length (advance_eq run).2))
  case inXlenByte0 | inFhcrcByte0 =>
    simp only [iterate] at run
    split at run
    · cases run
      exact Or.inr ⟨rfl, rfl, by simp [State.value]⟩
    · exact Or.inl (Nat.le_of_eq (congrArg List.length (advance_eq run).2))
  case inXlenByte1 => exact Or.inl (readExtra_work run).1
  case inFextra =>
    have read := readExtra_left (List.cons_ne_nil byte rest) (sound.extraLength rfl) run
    exact Or.inl (Nat.le_of_lt_succ read)
  case inFname | inFcomment =>
    rcases readString_left (List.cons_ne_nil byte rest) run with ⟨rfl, same⟩ | read
    · exact Or.inr ⟨rfl, same, by simp [State.value]⟩
    · exact Or.inl (Nat.le_of_lt_succ read)
  case inDone => cases run
  all_goals exact Or.inl (Nat.le_of_eq (congrArg List.length (advance_eq run).2))

/-- The parser expects more of the header. -/
structure Pending (header : GZipHeader) : Prop where
  sound : header.Sound
  unfinished : ¬ header.Finished

theorem pending_fresh : fresh.Pending where
  sound := ⟨by decide, by decide⟩
  unfinished finished := absurd finished.1 (by decide)

/-- The bytes beyond a header are some of the bytes read. -/
theorem length_beyond_le {header after : GZipHeader} {bytes beyond : List UInt8}
    (sound : header.Sound) (read : header.readLoop bytes = (after, .completeHeader beyond)) :
    beyond.length ≤ bytes.length := by
  induction header, bytes using readLoop.induct with
  | case1 header finished =>
    rw [readLoop_nil_of_finished finished] at read
    cases read
    exact Nat.le_refl _
  | case2 header unfinished =>
    rw [readLoop_nil_of_not_finished unfinished] at read
    cases read
  | case3 header byte rest status run =>
    rw [readLoop_returned run] at read
    rcases iterate_returned run with ⟨rfl, -⟩ | ⟨-, rfl, -⟩
    · cases read
    · cases read
      exact Nat.le_refl _
  | case4 header byte rest next left run inductionHypothesis =>
    rw [readLoop_again run] at read
    have behind := inductionHypothesis (sound_iterate sound run) read
    rcases iterate_left sound run with shorter | ⟨rfl, -⟩
    · exact Nat.le_trans behind (Nat.le_succ_of_le shorter)
    · exact behind

/-- A parser that expects more does not complete a header without reading. -/
theorem length_beyond_lt {header after : GZipHeader} {bytes beyond : List UInt8}
    (pending : header.Pending) (read : header.readLoop bytes = (after, .completeHeader beyond)) :
    beyond.length < bytes.length := by
  induction header, bytes using readLoop.induct with
  | case1 header finished => exact absurd finished pending.unfinished
  | case2 header unfinished =>
    rw [readLoop_nil_of_not_finished unfinished] at read
    cases read
  | case3 header byte rest status run =>
    rw [readLoop_returned run] at read
    rcases iterate_returned run with ⟨rfl, -⟩ | ⟨done, -⟩
    · cases read
    · exact absurd (finished_of_done pending.sound done) pending.unfinished
  | case4 header byte rest next left run inductionHypothesis =>
    rw [readLoop_again run] at read
    have sound := sound_iterate pending.sound run
    rcases iterate_left pending.sound run with shorter | ⟨rfl, same, behind⟩
    · exact Nat.lt_succ_of_le (Nat.le_trans (length_beyond_le sound read) shorter)
    · refine inductionHypothesis ⟨sound, fun finished => pending.unfinished ⟨behind, ?_⟩⟩ read
      rw [← same]
      exact finished.2

theorem pending_readLoop {header after : GZipHeader} {rest : List UInt8} (sound : header.Sound)
    (read : header.readLoop rest = (after, .incompleteHeader)) : after.Pending := by
  induction header, rest using readLoop.induct with
  | case1 header finished =>
    rw [readLoop_nil_of_finished finished] at read
    cases read
  | case2 header unfinished =>
    rw [readLoop_nil_of_not_finished unfinished] at read
    cases read
    exact ⟨sound, unfinished⟩
  | case3 header byte rest status run =>
    rw [readLoop_returned run] at read
    cases read
    rcases iterate_returned run with ⟨impossible, -⟩ | ⟨-, impossible, -⟩
    · cases impossible
    · cases impossible
  | case4 header byte rest next left run inductionHypothesis =>
    rw [readLoop_again run] at read
    exact inductionHypothesis (sound_iterate sound run) read

/-! ### The parser as a decoder -/

/-- A result of `ReadMore` as a position of a decoder. -/
def outcome : GZipHeader × Status → Fed UInt8 Empty GZipHeader
  | (header, .incompleteHeader) => .more header []
  | (_, .completeHeader beyond) => .last [] beyond
  | (_, .invalidHeader) => .bad []

/-- A result of `ReadMore` on one byte. -/
def progress : GZipHeader × Status → Progress Empty GZipHeader
  | (header, .incompleteHeader) => .more header []
  | (_, .completeHeader _) => .last []
  | (_, .invalidHeader) => .bad

/-- `ReadMore` on installments of one byte. -/
def decoder : Decoder UInt8 Empty GZipHeader where
  start := fresh
  step header byte := progress (header.readLoop [byte])

/-- Reading two installments is reading their concatenation. -/
theorem outcome_readLoop_append {header : GZipHeader} (sound : header.Sound)
    (front back : List UInt8) :
    outcome (header.readLoop (front ++ back)) =
      match outcome (header.readLoop front) with
      | .more after _ => outcome (after.readLoop back)
      | .last output beyond => .last output (beyond ++ back)
      | .bad output => .bad output := by
  induction header, front using readLoop.induct with
  | case1 header finished =>
    have behind : header.readLoop back = ((header.readLoop back).1, .completeHeader back) :=
      Prod.ext rfl (readLoop_of_finished sound finished back)
    rw [readLoop_nil_of_finished finished, List.nil_append, behind]
    rfl
  | case2 header unfinished =>
    rw [readLoop_nil_of_not_finished unfinished, List.nil_append]
    rfl
  | case3 header byte rest status run =>
    rw [List.cons_append, readLoop_returned run]
    rcases iterate_returned run with ⟨rfl, same⟩ | ⟨-, rfl, same⟩
    · rw [readLoop_returned (same _)]
      rfl
    · rw [readLoop_returned (same _)]
      rfl
  | case4 header byte rest next left run inductionHypothesis =>
    rw [List.cons_append, readLoop_append_again run, readLoop_again run]
    exact inductionHypothesis (sound_iterate sound run)

/-- `ReadMore` on a whole installment is the decoder on its bytes. -/
theorem outcome_readLoop {header : GZipHeader} (pending : header.Pending)
    (bytes : List UInt8) : outcome (header.readLoop bytes) = decoder.feed header bytes := by
  induction bytes generalizing header with
  | nil =>
    rw [readLoop_nil_of_not_finished pending.unfinished]
    rfl
  | cons byte rest inductionHypothesis =>
    have cut := outcome_readLoop_append pending.sound [byte] rest
    rw [List.singleton_append] at cut
    have step : decoder.step header byte = progress (header.readLoop [byte]) := rfl
    rw [cut, Decoder.feed, step]
    cases read : header.readLoop [byte] with
    | mk after status =>
      cases status with
      | incompleteHeader =>
        show outcome (after.readLoop rest) = (decoder.feed after rest).after []
        rw [Fed.after_nil]
        exact inductionHypothesis (pending_readLoop pending.sound read)
      | invalidHeader => rfl
      | completeHeader beyond =>
        have none : beyond = [] := by
          have shorter := length_beyond_lt pending read
          exact List.length_eq_zero_iff.mp (Nat.lt_one_iff.mp shorter)
        rw [none]
        rfl

end Fleetbench.Compression.GZipHeader
