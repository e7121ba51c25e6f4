/-
This file proves what `BrotliCompressor` accepts. Its loops end on every input:
a call of the decoder uses up input or leaves output to take, until the stream
ends or breaks. Every input is accepted exactly if it is one whole stream, but
for the empty one, which is accepted although it is none.
-/

import Fleetbench.Compression.Brotli
import Fleetbench.Library.Decoder
import Mathlib.Data.Prod.Lex

namespace Fleetbench.Compression

open Library

/-! ### What the library promises -/

/-- Where a decoder is in a stream. -/
inductive Place (Format : Type) where
  | within (state : Format)
  | behind

/-- The decoder reads the streams of a format. It is at some place of a stream and holds the output
up to there that has not been taken, of which `TakeOutput` gives some. -/
structure BrotliDecoder.Decodes {State Format : Type} (decoder : BrotliDecoder State)
    (format : Decoder UInt8 UInt8 Format) (holding : State → Place Format → List UInt8 → Prop) :
    Prop where
  create : ∃ state, decoder.createInstance = some state ∧ holding state (.within format.start) []
  take : ∀ state place held, holding state place held →
    ∃ rest, held = (decoder.takeOutput state).1 ++ rest ∧
      holding (decoder.takeOutput state).2 place rest
  pending : ∀ state input, (decoder.decompressStream state input).result = .needsMoreOutput →
    (decoder.takeOutput (decoder.decompressStream state input).next).1 ≠ []
  within : ∀ state before held input called, holding state (.within before) held →
    decoder.decompressStream state input = called →
      (called.result = .error ∧ ∃ output, format.feed before input = .bad output) ∨
      (∃ after output, format.feed before (input.take called.consumed) = .more after output ∧
        holding called.next (.within after) (held ++ output) ∧
        (called.result = .needsMoreInput ∧ called.consumed = input.length ∨
          called.result = .needsMoreOutput)) ∨
      ∃ output, format.feed before (input.take called.consumed) = .last output [] ∧
        holding called.next .behind (held ++ output) ∧
        (called.result = .success ∧ (decoder.takeOutput called.next).1 = held ++ output ∨
          called.result = .needsMoreOutput)
  behind : ∀ state held input called, holding state .behind held →
    decoder.decompressStream state input = called →
      called.consumed = 0 ∧ holding called.next .behind held ∧
        (called.result = .success ∧ (decoder.takeOutput called.next).1 = held ∨
          called.result = .needsMoreOutput)

/-- The encoder writes streams of a format. Asked to process or to finish, it has read some bytes
and put out others; a call reads more or has less to do, and a finished stream decodes to all that
was read. -/
structure BrotliEncoder.Encodes {State Format : Type} (encoder : BrotliEncoder State)
    (compressor : BrotliCompressor) (format : Decoder UInt8 UInt8 Format)
    (writing : BrotliEncoderOperation → State → List UInt8 → List UInt8 → Prop)
    (work : State → Nat) : Prop where
  prepare : ∀ size, ∃ state, encoder.prepared compressor size = some state ∧
    writing .process state [] []
  process : ∀ state read written input called, writing .process state read written → input ≠ [] →
    encoder.compressStream state .process input = called →
      called.result = true ∧
      writing .process (encoder.takeOutput called.next).2 (read ++ input.take called.consumed)
        (written ++ (encoder.takeOutput called.next).1) ∧
      (0 < called.consumed ∨ work (encoder.takeOutput called.next).2 < work state)
  finish : ∀ asked state read written called, writing asked state read written →
    encoder.isFinished state = false → encoder.compressStream state .finish [] = called →
      called.result = true ∧
      writing .finish (encoder.takeOutput called.next).2 read
        (written ++ (encoder.takeOutput called.next).1) ∧
      work (encoder.takeOutput called.next).2 < work state
  finished : ∀ asked state read written, writing asked state read written →
    encoder.isFinished state = true → format.Decodes written read

/-! ### Places -/

/-- The bytes lead to this place, with this output. -/
def Reaches {Format : Type} (format : Decoder UInt8 UInt8 Format) (read : List UInt8) :
    Place Format → List UInt8 → Prop
  | .within state, output => format.feed format.start read = .more state output
  | .behind, output => format.Decodes read output

section Reading

variable {State Format : Type} {decoder : BrotliDecoder State}
  {format : Decoder UInt8 UInt8 Format} {holding : State → Place Format → List UInt8 → Prop}

theorem reaches_more {read more output later : List UInt8} {before after : Format}
    (reaches : Reaches format read (.within before) output)
    (fed : format.feed before more = .more after later) :
    Reaches format (read ++ more) (.within after) (output ++ later) := by
  show format.feed format.start (read ++ more) = _
  rw [format.feed_append, show format.feed format.start read = _ from reaches]
  show (format.feed before more).after output = _
  rw [fed]
  rfl

theorem reaches_last {read more output later : List UInt8} {before : Format}
    (reaches : Reaches format read (.within before) output)
    (fed : format.feed before more = .last later []) :
    Reaches format (read ++ more) .behind (output ++ later) := by
  show format.feed format.start (read ++ more) = _
  rw [format.feed_append, show format.feed format.start read = _ from reaches]
  show (format.feed before more).after output = _
  rw [fed]
  rfl

/-- Nothing that begins with bytes that break the format is a stream. -/
theorem bad_of_within {read more output later : List UInt8} {before : Format}
    (reaches : Reaches format read (.within before) output)
    (fed : format.feed before more = .bad later) :
    ∃ output, format.feed format.start (read ++ more) = .bad output := by
  rw [format.feed_append, show format.feed format.start read = _ from reaches]
  refine ⟨output ++ later, ?_⟩
  show (format.feed before more).after output = _
  rw [fed]
  rfl

/-! ### One call -/

/-- Some bytes of the whole input have been read, and their output has been put out but for what
the decoder holds. At first the result is `BROTLI_DECODER_RESULT_SUCCESS`. -/
structure Keeps (format : Decoder UInt8 UInt8 Format)
    (holding : State → Place Format → List UInt8 → Prop) (whole : List UInt8)
    (place : Place Format) (held : List UInt8) (locals : Decompressing State) : Prop where
  reaches : ∃ read, whole = read ++ locals.input ∧
    Reaches format read place (locals.output ++ held)
  holding : holding locals.state place held
  unbroken : locals.result ≠ .error
  starved : locals.result = .needsMoreInput →
    locals.input = [] ∧ ∃ state, place = .within state
  success : locals.result = .success → place = .behind ∧ held = [] ∨ whole = locals.input

/-- The input is broken, and the decoder has said so. -/
def Broken (format : Decoder UInt8 UInt8 Format) (whole : List UInt8)
    (locals : Decompressing State) : Prop :=
  locals.result = .error ∧ ∃ output, format.feed format.start whole = .bad output

/-- The local variables behind a call of the decoder. -/
def behindCall (decoder : BrotliDecoder State) (locals : Decompressing State)
    (called : Decompressed State) : Decompressing State where
  state := (decoder.takeOutput called.next).2
  input := locals.input.drop called.consumed
  output := locals.output ++ (decoder.takeOutput called.next).1
  result := called.result

section Call

variable (decodes : decoder.Decodes format holding) {whole held : List UInt8} {place : Place Format}
  {locals : Decompressing State} (keeps : Keeps format holding whole place held locals)
  {called : Decompressed State}
  (made : decoder.decompressStream locals.state locals.input = called)

include decodes

/-- Where a call has led, and what has been taken of its output. -/
theorem keeps_of_reaches {place' : Place Format} {later : List UInt8}
    (reaches : ∃ read, whole = read ++ locals.input ∧
      Reaches format (read ++ locals.input.take called.consumed) place'
        (locals.output ++ (held ++ later)))
    (holds : holding called.next place' (held ++ later)) (unbroken : called.result ≠ .error)
    (starved : called.result = .needsMoreInput →
      locals.input.drop called.consumed = [] ∧ ∃ state, place' = .within state)
    (success : called.result = .success →
      place' = .behind ∧ (decoder.takeOutput called.next).1 = held ++ later)
    (idle : locals.input.take called.consumed = [] → later = []) :
    ∃ place' held', Keeps format holding whole place' held' (behindCall decoder locals called) ∧
      (called.result = .success → place' = .behind ∧ held' = []) ∧
      (locals.input.take called.consumed = [] →
        held.length = (decoder.takeOutput called.next).1.length + held'.length) := by
  obtain ⟨read, split, reaches⟩ := reaches
  have split' : whole = (read ++ locals.input.take called.consumed) ++
      locals.input.drop called.consumed := by
    rw [List.append_assoc, List.take_append_drop, split]
  obtain ⟨rest, taken, holds'⟩ := decodes.take _ _ _ holds
  have ended (succeeded : called.result = .success) : place' = .behind ∧ rest = [] := by
    obtain ⟨isBehind, all⟩ := success succeeded
    rw [all] at taken
    exact ⟨isBehind, List.append_cancel_left ((List.append_nil _).trans taken) |>.symm⟩
  refine ⟨place', rest, ⟨⟨_, split', ?_⟩, holds', unbroken, starved, fun succeeded =>
    .inl (ended succeeded)⟩, ended, fun nothing => ?_⟩
  · show Reaches format _ place' ((locals.output ++ (decoder.takeOutput called.next).1) ++ rest)
    rw [List.append_assoc, ← taken]
    exact reaches
  · rw [idle nothing, List.append_nil] at taken
    rw [← List.length_append, ← taken]

include keeps made

/-- A call goes on in the stream and puts out what is taken, or finds out that it is broken. -/
theorem behindCall_keeps :
    Broken format whole (behindCall decoder locals called) ∨
      ∃ place' held', Keeps format holding whole place' held' (behindCall decoder locals called) ∧
        (called.result = .success → place' = .behind ∧ held' = []) ∧
        (locals.input.take called.consumed = [] →
          held.length = (decoder.takeOutput called.next).1.length + held'.length) := by
  obtain ⟨read, split, reaches⟩ := keeps.reaches
  cases place with
  | within before =>
    rcases decodes.within _ _ _ _ _ keeps.holding made with
      ⟨error, output, fed⟩ | ⟨after, output, fed, holds, result⟩ | ⟨output, fed, holds, result⟩
    · exact .inl ⟨error, split ▸ bad_of_within reaches fed⟩
    · refine .inr (keeps_of_reaches decodes ⟨read, split, ?_⟩ holds ?_ ?_ ?_ fun nothing => ?_)
      · rw [← List.append_assoc]
        exact reaches_more reaches fed
      · rcases result with ⟨result, -⟩ | result <;> rw [result] <;> nofun
      · intro starves
        rcases result with ⟨-, all⟩ | result
        · exact ⟨List.drop_eq_nil_of_le (Nat.le_of_eq all.symm), after, rfl⟩
        · cases starves.symm.trans result
      · intro succeeds
        rcases result with ⟨result, -⟩ | result <;> cases succeeds.symm.trans result
      · rw [nothing] at fed
        cases fed
        rfl
    · refine .inr (keeps_of_reaches decodes ⟨read, split, ?_⟩ holds ?_ ?_ ?_ fun nothing => ?_)
      · rw [← List.append_assoc]
        exact reaches_last reaches fed
      · rcases result with ⟨result, -⟩ | result <;> rw [result] <;> nofun
      · intro starves
        rcases result with ⟨result, -⟩ | result <;> cases starves.symm.trans result
      · intro succeeds
        rcases result with ⟨-, all⟩ | result
        · exact ⟨rfl, all⟩
        · cases succeeds.symm.trans result
      · rw [nothing] at fed
        cases fed
  | behind =>
    obtain ⟨nothing, holds, result⟩ := decodes.behind _ _ _ _ keeps.holding made
    rw [← List.append_nil held] at holds
    refine .inr (keeps_of_reaches decodes ⟨read, split, ?_⟩ holds ?_ ?_ ?_ fun _ => rfl)
    · rw [nothing, List.take_zero, List.append_nil, List.append_nil]
      exact reaches
    · rcases result with ⟨result, -⟩ | result <;> rw [result] <;> nofun
    · intro starves
      rcases result with ⟨result, -⟩ | result <;> cases starves.symm.trans result
    · intro succeeds
      rcases result with ⟨-, all⟩ | result
      · exact ⟨rfl, all.trans (List.append_nil held).symm⟩
      · cases succeeds.symm.trans result

end Call

/-! ### The loops -/

/-- The reading is over: the input is broken or used up, or the stream ended before. -/
def Over (format : Decoder UInt8 UInt8 Format) (holding : State → Place Format → List UInt8 → Prop)
    (whole : List UInt8) (locals : Decompressing State) : Prop :=
  Broken format whole locals ∨ ∃ place held, Keeps format holding whole place held locals ∧
    (locals.input = [] ∨ locals.result = .success ∧ place = .behind)

/-- A round of the first loop. -/
theorem readRound_eq {locals : Decompressing State} {called : Decompressed State}
    (live : locals.input ≠ [] ∧ locals.result ≠ .error)
    (made : decoder.decompressStream locals.state locals.input = called) :
    decoder.readRound locals =
      if (decoder.takeOutput called.next).1 = [] ∧ called.result = .success then
        .stop (behindCall decoder locals called)
      else .again (behindCall decoder locals called) := by
  unfold BrotliDecoder.readRound behindCall
  rw [if_pos live, made]
  dsimp only
  by_cases none : (decoder.takeOutput called.next).1 = []
  · rw [if_neg (not_not_intro none), none, List.append_nil]
    by_cases succeeded : called.result = .success
    · rw [if_pos succeeded, if_pos ⟨rfl, succeeded⟩]
    · rw [if_neg succeeded, if_neg fun both => succeeded both.2]
  · rw [if_pos none, if_neg fun both => none both.1]

section Loops

variable (decodes : decoder.Decodes format holding) {whole : List UInt8}

include decodes

/-- Each round reads some input or takes some output. -/
theorem readLoop_ends {locals : Decompressing State} {place : Place Format} {held : List UInt8}
    (keeps : Keeps format holding whole place held locals) :
    ∃ final, Ends decoder.readRound locals final ∧ Over format holding whole final := by
  refine @ends_of_invariant _ _ (ℕ ×ₗ ℕ) _ _ decoder.readRound
    (fun rank locals => Broken format whole locals ∨ ∃ place held,
      Keeps format holding whole place held locals ∧
        rank = toLex (locals.input.length, held.length))
    (Over format holding whole) ?_ (toLex (locals.input.length, held.length)) locals
    (.inr ⟨place, held, keeps, rfl⟩)
  rintro rank locals (broken | ⟨place, held, keeps, rfl⟩)
  · exact .inr ⟨locals, if_neg fun live => live.2 broken.1, .inl broken⟩
  · by_cases empty : locals.input = []
    · exact .inr ⟨locals, if_neg fun live => live.1 empty, .inr ⟨place, held, keeps, .inl empty⟩⟩
    · obtain ⟨called, made⟩ : ∃ called,
          decoder.decompressStream locals.state locals.input = called := ⟨_, rfl⟩
      have round := readRound_eq ⟨empty, keeps.unbroken⟩ made
      have parts := List.take_append_drop called.consumed locals.input
      have total := congrArg List.length parts
      rw [List.length_append] at total
      rcases behindCall_keeps decodes keeps made with
        broken | ⟨place', held', keeps', ended, count⟩
      · refine .inl ⟨_, toLex (0, 0), round.trans (if_neg fun both => ?_), ?_, .inl broken⟩
        · cases both.2.symm.trans broken.1
        · exact Prod.Lex.toLex_lt_toLex.mpr (.inl (List.length_pos_iff.mpr empty))
      · by_cases ends : (decoder.takeOutput called.next).1 = [] ∧ called.result = .success
        · exact .inr ⟨_, round.trans (if_pos ends), .inr ⟨place', held', keeps',
            .inr ⟨ends.2, (ended ends.2).1⟩⟩⟩
        · refine .inl ⟨_, _, round.trans (if_neg ends), ?_, .inr ⟨place', held', keeps', rfl⟩⟩
          refine Prod.Lex.toLex_lt_toLex.mpr ?_
          show (locals.input.drop _).length < locals.input.length ∨
            (locals.input.drop _).length = locals.input.length ∧ held'.length < held.length
          by_cases nothing : locals.input.take called.consumed = []
          · have some : (decoder.takeOutput called.next).1 ≠ [] := by
              intro none
              cases result : called.result with
              | error => exact keeps'.unbroken result
              | success => exact ends ⟨none, result⟩
              | needsMoreInput =>
                have dropped : locals.input.drop called.consumed = [] := (keeps'.starved result).1
                rw [nothing, dropped] at parts
                exact empty parts.symm
              | needsMoreOutput =>
                subst made
                exact decodes.pending _ _ result none
            have taken := List.length_pos_iff.mpr some
            have left := count nothing
            rw [nothing, List.length_nil] at total
            exact .inr (by omega)
          · have some := List.length_pos_iff.mpr nothing
            exact .inl (by omega)

/-- Each round of the second loop takes some output. -/
theorem drainLoop_ends {locals : Decompressing State} (isOver : Over format holding whole locals) :
    ∃ final, Ends decoder.drainRound locals final ∧ Over format holding whole final ∧
      final.result ≠ .needsMoreOutput := by
  have begins : ∃ rank, locals.result = .needsMoreOutput → ∃ place held,
      Keeps format holding whole place held locals ∧ locals.input = [] ∧ held.length < rank := by
    rcases isOver with broken | ⟨place, held, keeps, ends⟩
    · exact ⟨0, fun drains => nomatch broken.1.symm.trans drains⟩
    · exact ⟨held.length + 1, fun drains => ⟨place, held, keeps,
        ends.resolve_right (fun both => nomatch both.1.symm.trans drains), Nat.lt_succ_self _⟩⟩
  obtain ⟨rank, begins⟩ := begins
  refine @ends_of_invariant _ _ ℕ _ _ decoder.drainRound
    (fun rank locals => Over format holding whole locals ∧
      (locals.result = .needsMoreOutput → ∃ place held,
        Keeps format holding whole place held locals ∧ locals.input = [] ∧ held.length < rank))
    (fun final => Over format holding whole final ∧ final.result ≠ .needsMoreOutput)
    ?_ rank locals ⟨isOver, begins⟩
  rintro rank locals ⟨isOver, drains⟩
  by_cases more : locals.result = .needsMoreOutput
  · obtain ⟨place, held, keeps, empty, below⟩ := drains more
    obtain ⟨called, made⟩ : ∃ called,
        decoder.decompressStream locals.state locals.input = called := ⟨_, rfl⟩
    have round : decoder.drainRound locals = .again (behindCall decoder locals called) := by
      unfold BrotliDecoder.drainRound behindCall
      rw [if_pos more, ← made, empty, List.drop_nil]
    have nothing : (behindCall decoder locals called).input = [] := by
      show locals.input.drop _ = []
      rw [empty, List.drop_nil]
    rcases behindCall_keeps decodes keeps made with broken | ⟨place', held', keeps', -, count⟩
    · exact .inl ⟨_, held.length, round, below, .inl broken,
        fun drains => nomatch broken.1.symm.trans drains⟩
    · refine .inl ⟨_, held.length, round, below, .inr ⟨place', held', keeps', .inl nothing⟩,
        fun drains => ⟨place', held', keeps', nothing, ?_⟩⟩
      have some : (decoder.takeOutput called.next).1 ≠ [] := by
        subst made
        exact decodes.pending _ _ drains
      have taken := List.length_pos_iff.mpr some
      have left := count (by rw [empty, List.take_nil])
      omega
  · exact .inr ⟨locals, if_neg more, isOver, more⟩

end Loops

/-! ### What is accepted -/

/-- The input is one whole stream exactly if all of it has been read and the stream has ended. -/
theorem accepted_iff {whole : List UInt8} {final : Decompressing State} (present : whole ≠ [])
    (isOver : Over format holding whole final) (drained : final.result ≠ .needsMoreOutput) :
    (final.result = .success ∧ final.input = [] ↔ ∃ data, format.Decodes whole data) ∧
      (final.result = .success ∧ final.input = [] → format.Decodes whole final.output) := by
  rcases isOver with ⟨error, output, broken⟩ | ⟨place, held, keeps, ends⟩
  · have failed : final.result ≠ .success := fun success => nomatch error.symm.trans success
    refine ⟨⟨fun both => absurd both.1 failed, fun ⟨data, decodes⟩ => ?_⟩,
      fun both => absurd both.1 failed⟩
    cases broken.symm.trans decodes
  · obtain ⟨read, split, reaches⟩ := keeps.reaches
    cases result : final.result with
    | error => exact absurd result keeps.unbroken
    | needsMoreOutput => exact absurd result drained
    | needsMoreInput =>
      obtain ⟨empty, state, rfl⟩ := keeps.starved result
      rw [empty, List.append_nil] at split
      subst split
      refine ⟨⟨fun both => absurd both.1 nofun, fun ⟨data, decodes⟩ => ?_⟩,
        fun both => absurd both.1 nofun⟩
      cases (show format.feed format.start _ = _ from reaches).symm.trans decodes
    | success =>
      have ended : place = .behind ∧ held = [] := by
        refine (keeps.success result).resolve_right fun unread => ?_
        rcases ends with empty | ⟨-, rfl⟩
        · exact present (unread.trans empty)
        · rw [unread] at split
          have none : read = [] := List.append_left_eq_self.mp split.symm
          subst none
          cases reaches
      obtain ⟨rfl, rfl⟩ := ended
      rw [List.append_nil] at reaches
      have decodes : format.Decodes read final.output := reaches
      have fed := format.feed_word_append decodes final.input
      rw [← split] at fed
      have whole' (empty : final.input = []) : format.Decodes whole final.output := by
        rw [empty] at fed
        exact fed
      exact ⟨⟨fun both => ⟨_, whole' both.2⟩, fun ⟨data, decodes'⟩ =>
        ⟨rfl, (Fed.last.inj (fed.symm.trans decodes')).2⟩⟩, fun both => whole' both.2⟩

/-- With enough fuel `Decompress` returns this. -/
def Returns (decoder : BrotliDecoder State) (input output : List UInt8) (accepted : Bool)
    (data : List UInt8) : Prop :=
  ∃ enough, ∀ fuel, enough ≤ fuel → decoder.decompress fuel input output = some (accepted, data)

/-- `Decompress` returns, and accepts exactly one whole stream, whatever `*output` held. -/
def AcceptsExactly (decoder : BrotliDecoder State) (format : Decoder UInt8 UInt8 Format)
    (input output : List UInt8) : Prop :=
  ∃ accepted data, Returns decoder input output accepted data ∧
    (accepted = true ↔ ∃ decoded, format.Decodes input decoded) ∧
    (accepted = true → format.Decodes input data)

theorem decompress_returns {state : State} {input : List UInt8}
    {read final : Decompressing State} (created : decoder.createInstance = some state)
    (reads : Ends decoder.readRound ⟨state, input, [], .success⟩ read)
    (drains : Ends decoder.drainRound read final) (output : List UInt8) :
    Returns decoder input output (final.result = .success ∧ final.input = []) final.output := by
  obtain ⟨enough, reads⟩ := reads
  obtain ⟨enough', drains⟩ := drains
  refine ⟨max enough enough', fun fuel more => ?_⟩
  unfold BrotliDecoder.decompress
  rw [created, Option.bind_eq_bind, Option.bind_some,
    reads fuel (Nat.le_trans (Nat.le_max_left _ _) more)]
  show (loop decoder.drainRound fuel read).bind _ = _
  rw [drains fuel (Nat.le_trans (Nat.le_max_right _ _) more)]
  rfl

theorem returns_unique {input output data data' : List UInt8} {accepted accepted' : Bool}
    (first : Returns decoder input output accepted data)
    (second : Returns decoder input output accepted' data') :
    accepted = accepted' ∧ data = data' := by
  obtain ⟨enough, first⟩ := first
  obtain ⟨enough', second⟩ := second
  have same := (first _ (Nat.le_max_left enough enough')).symm.trans
    (second _ (Nat.le_max_right enough enough'))
  cases same
  exact ⟨rfl, rfl⟩

section Accepts

variable (decodes : decoder.Decodes format holding)

include decodes

theorem acceptsExactly_of_present {input : List UInt8} (present : input ≠ [])
    (output : List UInt8) : AcceptsExactly decoder format input output := by
  obtain ⟨state, created, holds⟩ := decodes.create
  have keeps : Keeps format holding input (.within format.start) []
      ⟨state, input, [], .success⟩ := ⟨⟨[], rfl, rfl⟩, holds, nofun, nofun, fun _ => .inr rfl⟩
  obtain ⟨read, reads, isOver⟩ := readLoop_ends decodes keeps
  obtain ⟨final, drains, isOver', drained⟩ := drainLoop_ends decodes isOver
  obtain ⟨accepts, decoded⟩ := accepted_iff present isOver' drained
  refine ⟨_, _, decompress_returns created reads drains output, ?_, fun accepted => ?_⟩
  · rw [decide_eq_true_iff]
    exact accepts
  · exact decoded (decide_eq_true_iff.mp accepted)

/-- The loops leave the result as it was initialized. -/
theorem returns_empty (output : List UInt8) : Returns decoder [] output true [] := by
  obtain ⟨state, created, -⟩ := decodes.create
  exact decompress_returns created (ends_of_stop (if_neg fun live => live.1 rfl))
    (ends_of_stop (if_neg (by nofun))) output

/-- The empty input is accepted, and no stream is empty. -/
theorem acceptsExactly_iff (input output : List UInt8) :
    AcceptsExactly decoder format input output ↔ input ≠ [] := by
  refine ⟨?_, fun present => acceptsExactly_of_present decodes present output⟩
  rintro ⟨accepted, data, returns, accepts, -⟩ rfl
  obtain ⟨rfl, -⟩ := returns_unique returns (returns_empty decodes output)
  obtain ⟨decoded, isStream⟩ := accepts.mp rfl
  cases isStream

end Accepts

end Reading

end Fleetbench.Compression
