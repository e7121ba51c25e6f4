/-
This file is about decoders that read a stream symbol by symbol and find the
end of a word by themselves. What such a decoder makes of an input does not
depend on how the input is cut into pieces, and a word that it has decoded
stays decoded whatever follows.
-/

import Mathlib.Data.List.Basic

namespace Fleetbench.Library

universe u v w

variable {Symbol : Type u} {Output : Type v} {State : Type w}

/-- What a decoder does with one symbol. -/
inductive Progress (Output : Type v) (State : Type w) where
  | more (next : State) (output : List Output)
  | last (output : List Output)
  | bad

structure Decoder (Symbol : Type u) (Output : Type v) (State : Type w) where
  start : State
  step : State → Symbol → Progress Output State

/-- Where a decoder is after some input: inside a word, behind its last symbol, or behind a
symbol that no word has there. -/
inductive Fed (Symbol : Type u) (Output : Type v) (State : Type w) where
  | more (next : State) (output : List Output)
  | last (output : List Output) (unread : List Symbol)
  | bad (output : List Output)

namespace Fed

def output : Fed Symbol Output State → List Output
  | more _ output => output
  | last output _ => output
  | bad output => output

def after (earlier : List Output) : Fed Symbol Output State → Fed Symbol Output State
  | more next output => more next (earlier ++ output)
  | last output unread => last (earlier ++ output) unread
  | bad output => bad (earlier ++ output)

theorem after_after (first second : List Output) (fed : Fed Symbol Output State) :
    (fed.after second).after first = fed.after (first ++ second) := by
  cases fed <;> simp only [after, List.append_assoc]

theorem after_nil (fed : Fed Symbol Output State) : fed.after [] = fed := by
  cases fed <;> rfl

end Fed

namespace Decoder

variable (decoder : Decoder Symbol Output State)

def feed : State → List Symbol → Fed Symbol Output State
  | state, [] => .more state []
  | state, symbol :: rest =>
    match decoder.step state symbol with
    | .more next output => (feed next rest).after output
    | .last output => .last output rest
    | .bad => .bad []

/-- More input for a decoder that has been fed. -/
def resume : Fed Symbol Output State → List Symbol → Fed Symbol Output State
  | .more state output, input => (decoder.feed state input).after output
  | .last output unread, input => .last output (unread ++ input)
  | .bad output, _ => .bad output

/-- The whole input is one word, and this is what it says. -/
def Decodes (word : List Symbol) (output : List Output) : Prop :=
  decoder.feed decoder.start word = .last output []

theorem resume_after (earlier : List Output) (fed : Fed Symbol Output State)
    (input : List Symbol) :
    decoder.resume (fed.after earlier) input = (decoder.resume fed input).after earlier := by
  cases fed with
  | more state output => exact (Fed.after_after earlier output _).symm
  | last output unread => rfl
  | bad output => rfl

theorem feed_append (state : State) (front back : List Symbol) :
    decoder.feed state (front ++ back) = decoder.resume (decoder.feed state front) back := by
  induction front generalizing state with
  | nil =>
    rw [List.nil_append, feed]
    show _ = (decoder.feed state back).after []
    rw [Fed.after_nil]
  | cons symbol rest inductionHypothesis =>
    rw [List.cons_append, feed, feed]
    cases decoder.step state symbol with
    | more next output =>
      simp only
      rw [inductionHypothesis next, resume_after]
    | last output => rfl
    | bad => rfl

/-- A decoder stops behind the first word of its input. -/
theorem feed_eq_last_iff {state : State} {input : List Symbol} {output : List Output}
    {unread : List Symbol} :
    decoder.feed state input = .last output unread ↔
      ∃ word, input = word ++ unread ∧ decoder.feed state word = .last output [] := by
  constructor
  · intro fed
    induction input generalizing state output with
    | nil => cases fed
    | cons symbol rest inductionHypothesis =>
      rw [feed] at fed
      cases stepped : decoder.step state symbol with
      | more next first =>
        rw [stepped] at fed
        simp only at fed
        cases later : decoder.feed next rest with
        | more _ _ => rw [later] at fed; cases fed
        | bad _ => rw [later] at fed; cases fed
        | last second behind =>
          rw [later] at fed
          obtain ⟨rfl, rfl⟩ : first ++ second = output ∧ behind = unread := by
            simpa only [Fed.after, Fed.last.injEq] using fed
          obtain ⟨word, split, read⟩ := inductionHypothesis later
          refine ⟨symbol :: word, by rw [split, List.cons_append], ?_⟩
          rw [feed, stepped]
          simp only
          rw [read, Fed.after]
      | last first =>
        rw [stepped] at fed
        obtain ⟨rfl, rfl⟩ : first = output ∧ rest = unread := by
          simpa only [Fed.last.injEq] using fed
        exact ⟨[symbol], rfl, by rw [feed, stepped]⟩
      | bad => rw [stepped] at fed; cases fed
  · rintro ⟨word, rfl, read⟩
    rw [feed_append, read, resume, List.nil_append]

theorem feed_word_append {word : List Symbol} {output : List Output}
    (decodes : decoder.Decodes word output) (rest : List Symbol) :
    decoder.feed decoder.start (word ++ rest) = .last output rest :=
  decoder.feed_eq_last_iff.mpr ⟨word, rfl, decodes⟩

end Decoder

end Fleetbench.Library
