/-
This file is about languages, sets of words over some symbols, that leave no
input outside: every input begins with a word or is the proper beginning of
one.
-/

import Mathlib.Data.List.Basic

namespace Fleetbench.Library

universe u

variable {Symbol : Type u}

/-- The input begins with a word. -/
def Begins (language : List Symbol → Prop) (input : List Symbol) : Prop :=
  ∃ word rest, input = word ++ rest ∧ language word

/-- The input is the proper beginning of a word. -/
def Continues (language : List Symbol → Prop) (input : List Symbol) : Prop :=
  ∃ more, more ≠ [] ∧ language (input ++ more)

/-- Every input begins with a word or can be continued to one. -/
def Covers (language : List Symbol → Prop) : Prop :=
  ∀ input, Begins language input ∨ Continues language input

/-- A word of one language and then a word of the other. -/
def Followed (first second : List Symbol → Prop) (word : List Symbol) : Prop :=
  ∃ front back, word = front ++ back ∧ first front ∧ second back

theorem Covers.inhabited {language : List Symbol → Prop} (covers : Covers language) :
    ∃ word, language word := by
  rcases covers [] with ⟨word, _, _, member⟩ | ⟨more, _, member⟩
  · exact ⟨word, member⟩
  · exact ⟨_, member⟩

theorem Covers.followed {first second : List Symbol → Prop} (covers : Covers first)
    (others : Covers second) : Covers (Followed first second) := by
  intro input
  rcases covers input with ⟨word, rest, rfl, member⟩ | ⟨more, present, member⟩
  · rcases others rest with ⟨back, unread, rfl, follows⟩ | ⟨more, present, follows⟩
    · exact Or.inl ⟨word ++ back, unread, (List.append_assoc _ _ _).symm, word, back, rfl, member,
        follows⟩
    · exact Or.inr ⟨more, present, word, rest ++ more, List.append_assoc _ _ _, member, follows⟩
  · obtain ⟨back, follows⟩ := others.inhabited
    refine Or.inr ⟨more ++ back, ?_, input ++ more, back, (List.append_assoc _ _ _).symm, member,
      follows⟩
    exact List.append_ne_nil_of_left_ne_nil present back

/-- The empty word alone. -/
theorem covers_nil : Covers fun word : List Symbol => word = [] :=
  fun input => Or.inl ⟨[], input, rfl, rfl⟩

/-- All words of one length. -/
theorem covers_length [Inhabited Symbol] (count : Nat) :
    Covers fun word : List Symbol => word.length = count := by
  intro input
  by_cases long : count ≤ input.length
  · exact Or.inl ⟨input.take count, input.drop count, (List.take_append_drop count input).symm,
      List.length_take_of_le long⟩
  · have missing : 0 < count - input.length := Nat.sub_pos_of_lt (Nat.lt_of_not_le long)
    refine Or.inr ⟨List.replicate (count - input.length) default, ?_, ?_⟩
    · exact List.ne_nil_of_length_pos (by rwa [List.length_replicate])
    · show (input ++ _).length = count
      rw [List.length_append, List.length_replicate]
      omega

/-- Words that are symbols other than a terminator and then the terminator. -/
theorem covers_terminated [DecidableEq Symbol] (terminator : Symbol) :
    Covers fun word => ∃ text, word = text ++ [terminator] ∧ terminator ∉ text := by
  intro input
  by_cases ends : terminator ∈ input
  · obtain ⟨text, rest, split, absent⟩ := List.eq_append_cons_of_mem ends
    refine Or.inl ⟨text ++ [terminator], rest, ?_, text, rfl, absent⟩
    rw [split, List.append_assoc, List.singleton_append]
  · exact Or.inr ⟨[terminator], List.cons_ne_nil _ _, input, rfl, ends⟩

/-- A symbol and then a word of a language that depends on it. -/
theorem covers_cons [Inhabited Symbol] {after : Symbol → List Symbol → Prop}
    (covers : ∀ symbol, Covers (after symbol)) :
    Covers fun word => ∃ symbol rest, word = symbol :: rest ∧ after symbol rest := by
  intro input
  cases input with
  | nil =>
    obtain ⟨word, member⟩ := (covers default).inhabited
    exact Or.inr ⟨default :: word, List.cons_ne_nil _ _, default, word, rfl, member⟩
  | cons symbol input =>
    rcases covers symbol input with ⟨word, rest, rfl, member⟩ | ⟨more, present, member⟩
    · exact Or.inl ⟨symbol :: word, rest, rfl, symbol, word, rfl, member⟩
    · exact Or.inr ⟨more, present, symbol, input ++ more, rfl, member⟩

end Fleetbench.Library
