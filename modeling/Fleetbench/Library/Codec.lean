/-
This file is about codecs with a context that goes from one call to the next.
A codec writes each result over an old one, and may fail. It is lawful on some
words if, whatever its context has seen, it encodes them and decodes what was
once made of them, over anything.

Rounds that encode all words over the results of the round before leave what
one round leaves, and a final pass decodes it. A word that is encoded but never
decoded fails the pass.
-/

import Mathlib.Data.List.Forall2

namespace Fleetbench.Library

universe u v w

/-! ### Writing over a list -/

section Writing

variable {Context : Type u} {Source : Type v} {Target : Type w}

/-- For each source, the target at its position is written anew. -/
def writeAll (write : Context → Source → Target → Option (Target × Context)) :
    Context → List Source → List Target → Option (List Target × Context)
  | context, source :: sources, target :: targets =>
    (write context source target).bind fun (target, context) =>
      (writeAll write context sources targets).map fun (targets, context) =>
        (target :: targets, context)
  | context, _, _ => some ([], context)

variable {write : Context → Source → Target → Option (Target × Context)}
  {holds : Context → Prop} {related : Source → Target → Prop}

theorem writeAll_forall₂ {context : Context} {sources : List Source} {targets : List Target}
    (initially : holds context) (places : targets.length = sources.length)
    (writes : ∀ source ∈ sources, ∀ context target, holds context →
      ∃ written next, write context source target = some (written, next) ∧ holds next ∧
        related source written) :
    ∃ written last, writeAll write context sources targets = some (written, last) ∧ holds last ∧
      List.Forall₂ related sources written := by
  induction sources generalizing context targets with
  | nil =>
    obtain rfl := List.eq_nil_of_length_eq_zero places
    exact ⟨[], context, rfl, initially, .nil⟩
  | cons source sources inductionHypothesis =>
    obtain ⟨target, targets, rfl⟩ := List.exists_cons_of_length_eq_add_one places
    obtain ⟨first, next, wrote, still, one⟩ := writes source List.mem_cons_self context target
      initially
    obtain ⟨others, last, wroteAll, atEnd, rest⟩ := inductionHypothesis still
      (Nat.succ.inj places) fun source member => writes source (List.mem_cons_of_mem _ member)
    refine ⟨first :: others, last, ?_, atEnd, .cons one rest⟩
    rw [writeAll, wrote, Option.bind_some]
    show (writeAll write next sources targets).map _ = _
    rw [wroteAll, Option.map_some]

/-- One source that cannot be written fails the whole. -/
theorem writeAll_eq_none {context : Context} {sources : List Source} {targets : List Target}
    (places : targets.length = sources.length) {source : Source} (member : source ∈ sources)
    (refuses : ∀ context target, write context source target = none) :
    writeAll write context sources targets = none := by
  induction sources generalizing context targets with
  | nil => cases member
  | cons first sources inductionHypothesis =>
    obtain ⟨target, targets, rfl⟩ := List.exists_cons_of_length_eq_add_one places
    rw [writeAll]
    cases wrote : write context first target with
    | none => rfl
    | some written =>
      rcases List.mem_cons.mp member with rfl | later
      · cases (refuses context target).symm.trans wrote
      · rw [Option.bind_some]
        show (writeAll write written.2 sources targets).map _ = _
        rw [inductionHypothesis (Nat.succ.inj places) later, Option.map_none]

/-- Rounds of writing, each over the targets of the one before. -/
def writeRounds (write : Context → Source → Target → Option (Target × Context))
    (sources : List Source) : Nat → Context → List Target → Option (List Target × Context)
  | 0, context, targets => some (targets, context)
  | rounds + 1, context, targets =>
    (writeAll write context sources targets).bind fun (targets, context) =>
      writeRounds write sources rounds context targets

theorem writeRounds_forall₂ {context : Context} {sources : List Source} {targets : List Target}
    {rounds : Nat} (some_ : 0 < rounds) (initially : holds context)
    (places : targets.length = sources.length)
    (writes : ∀ source ∈ sources, ∀ context target, holds context →
      ∃ written next, write context source target = some (written, next) ∧ holds next ∧
        related source written) :
    ∃ written last, writeRounds write sources rounds context targets = some (written, last) ∧
      holds last ∧ List.Forall₂ related sources written := by
  induction rounds generalizing context targets with
  | zero => cases some_
  | succ rounds inductionHypothesis =>
    obtain ⟨written, next, wrote, still, relates⟩ := writeAll_forall₂ initially places writes
    rw [writeRounds, wrote, Option.bind_some]
    show ∃ _ _, writeRounds write sources rounds next written = _ ∧ _
    rcases Nat.eq_zero_or_pos rounds with rfl | more
    · exact ⟨written, next, rfl, still, relates⟩
    · exact inductionHypothesis more still relates.length_eq.symm

theorem writeRounds_eq_none {context : Context} {sources : List Source} {targets : List Target}
    (places : targets.length = sources.length) {source : Source} (member : source ∈ sources)
    (refuses : ∀ context target, write context source target = none) (rounds : Nat) :
    writeRounds write sources (rounds + 1) context targets = none := by
  rw [writeRounds, writeAll_eq_none places member refuses, Option.bind_none]

end Writing

/-! ### Codecs -/

/-- Both directions get the old result. Decoding also says whether it went well. -/
structure Codec (Context : Type u) (Word : Type v) (Code : Type w) where
  encode : Context → Word → Code → Option (Code × Context)
  decode : Context → Code → Word → Option (Bool × Word × Context)

namespace Codec

variable {Context : Type u} {Word : Type v} {Code : Type w}

section Laws

variable (codec : Codec Context Word Code) (holds : Context → Prop) (codes : Word → Code → Prop)

/-- The words are encoded to codes that stand for them, whatever is written over. -/
def Encodes (words : List Word) : Prop :=
  ∀ word ∈ words, ∀ context old, holds context →
    ∃ code next, codec.encode context word old = some (code, next) ∧ holds next ∧ codes word code

/-- What stands for one of the words decodes to it. -/
def Decodes (words : List Word) : Prop :=
  ∀ word ∈ words, ∀ context code old, holds context → codes word code →
    ∃ next, codec.decode context code old = some (true, word, next) ∧ holds next

/-- The codec keeps an invariant of its context both ways. -/
structure Lawful (words : List Word) : Prop where
  encode : codec.Encodes holds codes words
  decode : codec.Decodes holds codes words

/-- What stands for the word is never decoded. -/
def Refuses (word : Word) : Prop :=
  ∀ context code old, codes word code → codec.decode context code old = none

/-- Decoding over an old word. -/
def overwrite (context : Context) (code : Code) (old : Word) : Option (Word × Context) :=
  (codec.decode context code old).map Prod.snd

variable {codec holds codes}

/-- A code stands for at most one of the words. -/
theorem Decodes.rightUnique {words : List Word} (decodes : codec.Decodes holds codes words)
    {context : Context} (initially : holds context) :
    Relator.RightUnique fun code word => word ∈ words ∧ codes word code := by
  rintro code word other ⟨member, stands⟩ ⟨member', stands'⟩
  obtain ⟨next, decoded, -⟩ := decodes word member context code word initially stands
  obtain ⟨next', decoded', -⟩ := decodes other member' context code word initially stands'
  exact (Prod.mk.inj (Prod.mk.inj (Option.some.inj (decoded.symm.trans decoded'))).2).1

/-- Rounds of decoding leave what one leaves, which is the words. -/
theorem Decodes.writeRounds {words : List Word} {written : List Code} {context : Context}
    {olds : List Word} {rounds : Nat} (decodes : codec.Decodes holds codes words)
    (stand : List.Forall₂ codes words written) (some_ : 0 < rounds) (initially : holds context)
    (places : olds.length = written.length) :
    ∃ last, writeRounds codec.overwrite written rounds context olds = some (words, last) ∧
      holds last := by
  have stand' : List.Forall₂ (fun code word => word ∈ words ∧ codes word code) written words := by
    refine .flip (List.forall₂_iff_zip.mpr ⟨stand.length_eq, fun {word code} pair => ?_⟩)
    exact ⟨(List.of_mem_zip pair).1, List.forall₂_zip stand pair⟩
  have writes : ∀ code ∈ written, ∀ context old, holds context →
      ∃ word next, codec.overwrite context code old = some (word, next) ∧ holds next ∧
        word ∈ words ∧ codes word code := by
    intro code member context old still
    obtain ⟨word, stands⟩ : ∃ word, word ∈ words ∧ codes word code := by
      obtain ⟨i, inside, rfl⟩ := List.mem_iff_getElem.mp member
      have inside' : i < words.length := stand'.length_eq ▸ inside
      exact ⟨_, (List.forall₂_iff_get.mp stand').2 i inside inside'⟩
    obtain ⟨next, decoded, kept⟩ := decodes word stands.1 context code old still stands.2
    exact ⟨word, next, Option.map_eq_some_iff.mpr ⟨_, decoded, rfl⟩, kept, stands⟩
  obtain ⟨decoded, last, wrote, kept, relates⟩ :=
    writeRounds_forall₂ some_ initially places writes
  obtain rfl := List.right_unique_forall₂' (decodes.rightUnique initially) relates stand'
  exact ⟨last, wrote, kept⟩

end Laws

end Codec

end Fleetbench.Library
