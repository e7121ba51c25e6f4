/-
This file proves that `Decompress` gets back what `Compress` was given, and
gathers what holds of `BrotliCompressor`. A library that keeps its promises is
built for streams that put every byte into a meta-block of its own.
-/

import Fleetbench.Compression.BrotliStream

namespace Fleetbench.Compression

open Library

/-! ### What is compressed -/

section Writing

variable {State Format : Type} {encoder : BrotliEncoder State} {compressor : BrotliCompressor}
  {format : Decoder UInt8 UInt8 Format}
  {writing : BrotliEncoderOperation → State → List UInt8 → List UInt8 → Prop}
  {work : State → Nat} (encodes : encoder.Encodes compressor format writing work)

include encodes

/-- The first loop hands over all the data. -/
theorem processLoop_ends {data read : List UInt8} {locals : Compressing State}
    (split : data = read ++ locals.input) (succeeded : locals.result = true)
    (writes : writing .process locals.state read locals.output) :
    ∃ final, Ends encoder.processRound locals final ∧ final.result = true ∧
      writing .process final.state data final.output := by
  refine @ends_of_invariant _ _ (ℕ ×ₗ ℕ) _ _ encoder.processRound
    (fun rank locals => ∃ read, data = read ++ locals.input ∧ locals.result = true ∧
      writing .process locals.state read locals.output ∧
        rank = toLex (locals.input.length, work locals.state))
    (fun final => final.result = true ∧ writing .process final.state data final.output)
    ?_ (toLex (locals.input.length, work locals.state)) locals ⟨read, split, succeeded, writes, rfl⟩
  rintro rank locals ⟨read, split, succeeded, writes, rfl⟩
  by_cases empty : locals.input = []
  · refine .inr ⟨locals, if_neg fun live => live.1 empty, succeeded, ?_⟩
    rw [split, empty, List.append_nil]
    exact writes
  · obtain ⟨success, writes', less⟩ := encodes.process _ _ _ _ _ writes empty rfl
    refine .inl ⟨_, _, if_pos ⟨empty, succeeded⟩, ?_, _, ?_, success, writes', rfl⟩
    · refine Prod.Lex.toLex_lt_toLex'.mpr ⟨?_, fun same => ?_⟩
      · show (locals.input.drop _).length ≤ _
        rw [List.length_drop]
        exact Nat.sub_le _ _
      · have present := List.length_pos_iff.mpr empty
        have kept : (locals.input.drop _).length = _ := same
        rw [List.length_drop] at kept
        exact less.resolve_left (by omega)
    · rw [List.append_assoc, List.take_append_drop]
      exact split

/-- The second loop writes the rest of the stream. -/
theorem finishLoop_ends {asked : BrotliEncoderOperation} {data : List UInt8}
    {locals : Compressing State} (succeeded : locals.result = true)
    (writes : writing asked locals.state data locals.output) :
    ∃ final, Ends encoder.finishRound locals final ∧ final.result = true ∧
      format.Decodes final.output data := by
  refine @ends_of_invariant _ _ ℕ _ _ encoder.finishRound
    (fun rank locals => ∃ asked, locals.result = true ∧
      writing asked locals.state data locals.output ∧ rank = work locals.state)
    (fun final => final.result = true ∧ format.Decodes final.output data)
    ?_ (work locals.state) locals ⟨asked, succeeded, writes, rfl⟩
  rintro rank locals ⟨asked, succeeded, writes, rfl⟩
  cases finished : encoder.isFinished locals.state with
  | false =>
    obtain ⟨success, writes', less⟩ := encodes.finish _ _ _ _ _ writes finished rfl
    exact .inl ⟨_, _, if_pos ⟨succeeded, finished⟩, less, _, success, writes', rfl⟩
  | true =>
    exact .inr ⟨locals, if_neg fun live => Bool.noConfusion (finished.symm.trans live.2), succeeded,
      encodes.finished _ _ _ _ writes finished⟩

/-- `Compress` returns the length of one whole stream, which it leaves in `*output`. -/
theorem compress_returns (data output : List UInt8) :
    ∃ compressed enough, (∀ fuel, enough ≤ fuel →
      encoder.compress compressor fuel data output = some (compressed.length, compressed)) ∧
        format.Decodes compressed data := by
  obtain ⟨state, prepared, writes⟩ := encodes.prepare data.length
  have begins : ∃ final, Ends encoder.processRound ⟨state, data, [], true⟩ final ∧
      final.result = true ∧ writing .process final.state data final.output :=
    processLoop_ends encodes rfl rfl writes
  obtain ⟨processed, ⟨enough, processes⟩, succeeded, writes⟩ := begins
  obtain ⟨finished, ⟨enough', finishes⟩, succeeded, decodes⟩ :=
    finishLoop_ends encodes succeeded writes
  refine ⟨finished.output, max enough enough', fun fuel more => ?_, decodes⟩
  unfold BrotliEncoder.compress
  rw [prepared, Option.bind_eq_bind, Option.bind_some,
    processes fuel (Nat.le_trans (Nat.le_max_left _ _) more)]
  show (loop encoder.finishRound fuel processed).bind _ = _
  rw [finishes fuel (Nat.le_trans (Nat.le_max_right _ _) more), Option.bind_some, if_pos succeeded]
  rfl

end Writing

/-! ### The compressor -/

theorem compressed_returns {State Format : Type} {decoder : BrotliDecoder State}
    {format : Decoder UInt8 UInt8 Format} {holding : State → Place Format → List UInt8 → Prop}
    (decodes : decoder.Decodes format holding) {compressed data : List UInt8}
    (isStream : format.Decodes compressed data) (output : List UInt8) :
    Returns decoder compressed output true data := by
  have present : compressed ≠ [] := by
    rintro rfl
    cases isStream
  obtain ⟨accepted, result, returns, accepts, decoded⟩ :=
    acceptsExactly_of_present decodes present output
  obtain rfl : accepted = true := accepts.mpr ⟨data, isStream⟩
  obtain rfl : data = result := (Fed.last.inj (isStream.symm.trans (decoded rfl))).1
  exact returns

theorem decompress_law {State Format EncoderState : Type} {decoder : BrotliDecoder State}
    {format : Decoder UInt8 UInt8 Format} {holding : State → Place Format → List UInt8 → Prop}
    (decodes : decoder.Decodes format holding) {encoder : BrotliEncoder EncoderState}
    {compressor : BrotliCompressor}
    {writing : BrotliEncoderOperation → EncoderState → List UInt8 → List UInt8 → Prop}
    {work : EncoderState → Nat} (encodes : encoder.Encodes compressor format writing work) :
    (∀ input output, AcceptsExactly decoder format input output ↔ input ≠ []) ∧
      (∀ input output, ∃ accepted data, Returns decoder input output accepted data) ∧
      ∀ data old output, ∃ compressed enough, (∀ fuel, enough ≤ fuel →
        encoder.compress compressor fuel data old = some (compressed.length, compressed)) ∧
          Returns decoder compressed output true data := by
  refine ⟨acceptsExactly_iff decodes, fun input output => ?_, fun data old output => ?_⟩
  · by_cases empty : input = []
    · exact ⟨true, [], empty ▸ returns_empty decodes output⟩
    · obtain ⟨accepted, data, returns, -⟩ := acceptsExactly_of_present decodes empty output
      exact ⟨accepted, data, returns⟩
  · obtain ⟨compressed, enough, compresses, isStream⟩ := compress_returns encodes data old
    exact ⟨compressed, enough, compresses, compressed_returns decodes isStream output⟩

/-! ### Uncompressed meta-blocks -/

/-- A place in a stream of uncompressed meta-blocks of one byte each. -/
inductive BlockPlace where
  | start
  | header (expected : List UInt8)
  | between
  deriving DecidableEq, Repr

/-- The empty stream is one byte. Else the first header shares a byte with the window size, and the
last, empty meta-block ends the stream. -/
def blockFormat : Decoder UInt8 UInt8 BlockPlace where
  start := .start
  step
    | .start, byte =>
      if byte = 0x3b then .last []
      else if byte = 0x0b then .more (.header [0x00, 0x80]) []
      else .bad
    | .header [], byte => .more .between [byte]
    | .header (expected :: rest), byte => if byte = expected then .more (.header rest) [] else .bad
    | .between, byte =>
      if byte = 0x03 then .last []
      else if byte = 0x00 then .more (.header [0x00, 0x08]) []
      else .bad

/-- The stream for some bytes. -/
def blockStream : List UInt8 → List UInt8
  | [] => [0x3b]
  | first :: rest =>
    [0x0b, 0x00, 0x80, first] ++ rest.flatMap (fun byte => [0x00, 0x00, 0x08, byte]) ++ [0x03]

/-- A decoder that reads as far as it can, and holds all the output. -/
def holdingDecoder {Format : Type} (format : Decoder UInt8 UInt8 Format) :
    BrotliDecoder (Place Format × List UInt8) where
  createInstance := some (.within format.start, [])
  decompressStream
    | (.behind, held), _ => ⟨if held = [] then .success else .needsMoreOutput, 0, .behind, held⟩
    | (.within before, held), input =>
      match format.feed before input with
      | .more after output => ⟨.needsMoreInput, input.length, .within after, held ++ output⟩
      | .last output unread =>
        ⟨if held ++ output = [] then .success else .needsMoreOutput, input.length - unread.length,
          .behind, held ++ output⟩
      | .bad _ => ⟨.error, 0, .within before, held⟩
  takeOutput state := (state.2, state.1, [])

theorem holdingDecoder_decodes {Format : Type} (format : Decoder UInt8 UInt8 Format) :
    (holdingDecoder format).Decodes format fun state place held => state = (place, held) where
  create := ⟨_, rfl, rfl⟩
  take := by
    rintro _ place held rfl
    exact ⟨[], (List.append_nil held).symm, rfl⟩
  pending := by
    rintro ⟨place, held⟩ input pending
    have some {held : List UInt8} (result : (if held = [] then BrotliDecoderResult.success else
        .needsMoreOutput) = .needsMoreOutput) : held ≠ [] := by
      rintro rfl
      cases result
    cases place with
    | behind => exact some pending
    | within before =>
      unfold holdingDecoder at pending ⊢
      dsimp only at pending ⊢
      cases fed : format.feed before input with
      | more after output =>
        rw [fed] at pending
        cases pending
      | bad output =>
        rw [fed] at pending
        cases pending
      | last output unread =>
        rw [fed] at pending
        exact some pending
  within := by
    rintro _ before held input _ rfl rfl
    unfold holdingDecoder
    dsimp only
    cases fed : format.feed before input with
    | more after output =>
      refine .inr (.inl ⟨after, output, ?_, rfl, .inl ⟨rfl, rfl⟩⟩)
      rw [List.take_length]
      exact fed
    | bad output => exact .inl ⟨rfl, output, rfl⟩
    | last output unread =>
      obtain ⟨word, rfl, read⟩ := format.feed_eq_last_iff.mp fed
      refine .inr (.inr ⟨output, ?_, rfl, ?_⟩)
      · show format.feed before ((word ++ unread).take
          ((word ++ unread).length - unread.length)) = _
        rw [List.length_append, Nat.add_sub_cancel, List.take_left]
        exact read
      · by_cases empty : held ++ output = []
        · exact .inl ⟨if_pos empty, rfl⟩
        · exact .inr (if_neg empty)
  behind := by
    rintro _ held input _ rfl rfl
    refine ⟨rfl, rfl, ?_⟩
    by_cases empty : held = []
    · exact .inl ⟨if_pos empty, rfl⟩
    · exact .inr (if_neg empty)

/-! ### An encoder for them -/

/-- What an encoder has read, and what it holds once the stream is finished. -/
structure BlockEncoding where
  read : List UInt8
  finished : Bool
  held : List UInt8
  deriving DecidableEq, Repr

/-- It puts out nothing before it is asked to finish. -/
def blockEncoder : BrotliEncoder BlockEncoding where
  createInstance := some ⟨[], false, []⟩
  setParameter state _ _ := some state
  compressStream state operation input :=
    if state.finished = true then ⟨input = [], 0, state⟩
    else match operation with
      | .process => ⟨true, input.length, { state with read := state.read ++ input }⟩
      | .finish => ⟨true, input.length,
          ⟨state.read ++ input, true, blockStream (state.read ++ input)⟩⟩
  takeOutput state := (state.held, { state with held := [] })
  isFinished state := state.finished ∧ state.held = []

theorem feed_blocks (data : List UInt8) :
    blockFormat.feed .between (data.flatMap (fun byte => [0x00, 0x00, 0x08, byte]) ++ [0x03]) =
      .last data [] := by
  induction data with
  | nil => rfl
  | cons byte rest inductionHypothesis =>
    rw [List.flatMap_cons, List.append_assoc, blockFormat.feed_append]
    show blockFormat.resume (.more .between [byte]) _ = _
    show (blockFormat.feed .between _).after [byte] = _
    rw [inductionHypothesis]
    rfl

theorem blockStream_decodes (data : List UInt8) :
    blockFormat.Decodes (blockStream data) data := by
  cases data with
  | nil => rfl
  | cons first rest =>
    show blockFormat.feed .start _ = _
    rw [blockStream, List.append_assoc, blockFormat.feed_append]
    show (blockFormat.feed .between _).after [first] = _
    rw [feed_blocks]
    rfl

theorem blockEncoder_encodes (compressor : BrotliCompressor) :
    blockEncoder.Encodes compressor blockFormat
      (fun asked state read written =>
        state = ⟨read, false, []⟩ ∧ written = [] ∨
          asked = .finish ∧ state = ⟨read, true, []⟩ ∧ written = blockStream read)
      (fun state => if state.finished then 0 else 1) where
  prepare _ := ⟨_, rfl, .inl ⟨rfl, rfl⟩⟩
  process := by
    rintro _ read _ input _ (⟨rfl, rfl⟩ | ⟨asked, -⟩) present rfl
    · refine ⟨rfl, .inl ⟨?_, rfl⟩, .inl (List.length_pos_iff.mpr present)⟩
      show BlockEncoding.mk (read ++ input) false [] = ⟨read ++ input.take input.length, false, []⟩
      rw [List.take_length]
    · cases asked
  finish := by
    rintro asked _ read _ _ (⟨rfl, rfl⟩ | ⟨rfl, rfl, rfl⟩) unfinished rfl
    · refine ⟨rfl, .inr ⟨rfl, ?_, ?_⟩, Nat.zero_lt_one⟩
      · show BlockEncoding.mk (read ++ []) true [] = _
        rw [List.append_nil]
      · show [] ++ blockStream (read ++ []) = _
        rw [List.append_nil, List.nil_append]
    · cases unfinished
  finished := by
    rintro asked _ read _ (⟨rfl, rfl⟩ | ⟨rfl, rfl, rfl⟩) finished
    · cases finished
    · exact blockStream_decodes read

theorem decompress_law_blocks :
    (∀ input output, AcceptsExactly (holdingDecoder blockFormat) blockFormat input output ↔
        input ≠ []) ∧
      (∀ input output, ∃ accepted data,
        Returns (holdingDecoder blockFormat) input output accepted data) ∧
      ∀ data old output, ∃ compressed enough, (∀ fuel, enough ≤ fuel →
        blockEncoder.compress ⟨11, 22⟩ fuel data old = some (compressed.length, compressed)) ∧
          Returns (holdingDecoder blockFormat) compressed output true data :=
  decompress_law (holdingDecoder_decodes blockFormat) (blockEncoder_encodes ⟨11, 22⟩)

/-- The decoder keeps its promises, but the empty input is accepted. -/
theorem not_acceptsExactly_empty :
    (∃ holding, (holdingDecoder blockFormat).Decodes blockFormat holding) ∧
      (holdingDecoder blockFormat).decompress 1 [] [] = some (true, []) ∧
      (¬ ∃ data, blockFormat.Decodes [] data) ∧
      ¬ AcceptsExactly (holdingDecoder blockFormat) blockFormat [] [] := by
  have decodes := holdingDecoder_decodes blockFormat
  refine ⟨⟨_, decodes⟩, rfl, ?_, fun accepts => (acceptsExactly_iff decodes [] []).mp accepts rfl⟩
  rintro ⟨data, isStream⟩
  cases isStream

end Fleetbench.Compression
