/-
This file proves that a member that compression wrote is read back: in one
call, into a buffer that the wrapper allocates, and in chunks. Each of them
takes the member to its footer and finds there what was written.
-/

import Fleetbench.Compression.OneShot
import Fleetbench.Compression.WrittenMember

namespace Fleetbench.Compression

open Library

/-- Asked for the end, `inflate` reaches it if the input contains it and there is room for the
output. -/
structure InflatesWhole {Inflater Deflater State : Type} (zlib : Zlib Inflater Deflater)
    (format : Decoder UInt8 UInt8 State) (at_ : Inflater → State → Prop) : Prop
    extends Inflates zlib format at_ where
  whole : ∀ stream state input room, at_ stream state →
    ∀ output unread, format.feed state input = .last output unread → output.length ≤ room →
      ∃ next, zlib.inflate stream input room .finish =
        ⟨.streamEnd, input.length - unread.length, output, next⟩

namespace ZLib

variable {Inflater Deflater State : Type} {zlib : WholeZlib Inflater Deflater}
  {format : Decoder UInt8 UInt8 State} {at_ : Inflater → State → Prop}
  {object : ZLib Inflater Deflater}

/-! ### The flag that tolerates bad footers -/

section Flexible

variable {destLen : Nat} {source : List UInt8} {flushMode : Flush}
  {result : Uncompressed Inflater Deflater}

theorem concludeInflate_flexible {oldTotalIn oldTotalOut : Nat} {written : List UInt8} {err : ZCode}
    (concluded : object.concludeInflate zlib.toZlib false oldTotalIn oldTotalOut destLen source
      written err = some result) (succeeded : result.code = .ok) (flexible : Bool) :
    object.concludeInflate zlib.toZlib flexible oldTotalIn oldTotalOut destLen source written err =
      some result := by
  unfold concludeInflate at concluded ⊢
  dsimp only at concluded ⊢
  split at concluded
  · cases concluded
  · rename_i within
    rw [if_neg within]
    split at concluded
    · rename_i footer
      rw [if_pos ⟨footer.1, footer.2.1, .inl (footer.2.2.resolve_right Bool.false_ne_true)⟩]
      exact concluded
    · rename_i noFooter
      by_cases lenient : err = .streamEnd ∧
          (object.gzipFooterBytes = -1 ∨ object.gzipFooterBytes < 8) ∧
          (object.uncompStream.availIn ≤ 8 ∨ flexible = true)
      · have excess : ¬ object.uncompStream.availIn ≤ 8 := fun short =>
          noFooter ⟨lenient.1, lenient.2.1, .inl short⟩
        rw [if_neg (by omega), if_pos ⟨lenient.1, by omega⟩] at concluded
        split at concluded
        · cases concluded
        · cases concluded
          cases succeeded
      · rw [if_neg lenient]
        exact concluded

theorem inflateSource_flexible {oldTotalIn oldTotalOut : Nat}
    (uncompressed : object.inflateSource zlib.toZlib false oldTotalIn oldTotalOut destLen source
      flushMode = some result) (succeeded : result.code = .ok) (flexible : Bool) :
    object.inflateSource zlib.toZlib flexible oldTotalIn oldTotalOut destLen source flushMode =
      some result := by
  unfold inflateSource at uncompressed ⊢
  dsimp only at uncompressed ⊢
  cases found : object.settings.dictionary with
  | none =>
    simp only [found] at uncompressed ⊢
    exact concludeInflate_flexible uncompressed succeeded flexible
  | some dictionary =>
    simp only [found] at uncompressed ⊢
    split at uncompressed
    · rename_i asked
      rw [if_pos asked]
      split at uncompressed
      · rename_i failed
        rw [if_pos failed]
        exact uncompressed
      · rename_i set
        rw [if_neg set]
        exact concludeInflate_flexible uncompressed succeeded flexible
    · rename_i unasked
      rw [if_neg unasked]
      exact concludeInflate_flexible uncompressed succeeded flexible

theorem uncompressSource_flexible
    (uncompressed : object.uncompressSource zlib.toZlib false destLen source flushMode =
      some result) (succeeded : result.code = .ok) (flexible : Bool) :
    object.uncompressSource zlib.toZlib flexible destLen source flushMode = some result := by
  unfold uncompressSource at uncompressed ⊢
  dsimp only at uncompressed ⊢
  split at uncompressed
  · rename_i failed
    rw [if_pos failed]
    exact uncompressed
  · rename_i ready
    rw [if_neg ready]
    split at uncompressed
    · rename_i first
      rw [if_pos first]
      split at uncompressed
      · rename_i failed
        rw [if_pos failed]
        exact uncompressed
      · rename_i preset
        rw [if_neg preset]
        split at uncompressed
        · rename_i empty
          rw [if_pos empty]
          exact uncompressed
        · rename_i present
          rw [if_neg present]
          exact inflateSource_flexible uncompressed succeeded flexible
    · rename_i later
      rw [if_neg later]
      exact inflateSource_flexible uncompressed succeeded flexible

theorem readHeader_flexible
    (read : object.readHeader zlib.toZlib false destLen source flushMode = some result)
    (succeeded : result.code = .ok) (flexible : Bool) :
    object.readHeader zlib.toZlib flexible destLen source flushMode = some result := by
  unfold readHeader at read ⊢
  cases run : object.gzipHeader.readMore source (toInt source.length) with
  | none => rw [run] at read; cases read
  | some answer =>
    obtain ⟨header, status⟩ := answer
    rw [run] at read
    cases status with
    | incompleteHeader => exact read
    | invalidHeader => exact read
    | completeHeader beyond => exact uncompressSource_flexible read succeeded flexible

theorem readFooter_flexible
    (read : object.readFooter false destLen source = some result) (succeeded : result.code = .ok)
    (flexible : Bool) : object.readFooter flexible destLen source = some result := by
  unfold readFooter at read ⊢
  dsimp only at read ⊢
  split at read
  · cases read
    cases succeeded
  · rename_i short
    rw [if_neg fun long => short ⟨long.1, rfl⟩]
    exact read

theorem uncompressAtMostOrAll_flexible
    (uncompressed : object.uncompressAtMostOrAll zlib.toZlib false destLen source flushMode =
      some result) (succeeded : result.code = .ok) (flexible : Bool) :
    object.uncompressAtMostOrAll zlib.toZlib flexible destLen source flushMode = some result := by
  unfold uncompressAtMostOrAll at uncompressed ⊢
  dsimp only at uncompressed ⊢
  split at uncompressed
  · rename_i first
    rw [if_pos first]
    split at uncompressed
    · rename_i gzip
      rw [if_pos gzip]
      exact readHeader_flexible uncompressed succeeded flexible
    · rename_i bare
      rw [if_neg bare]
      exact uncompressSource_flexible uncompressed succeeded flexible
  · rename_i later
    rw [if_neg later]
    split at uncompressed
    · rename_i footer
      rw [if_pos footer]
      exact readFooter_flexible uncompressed succeeded flexible
    · rename_i data
      rw [if_neg data]
      exact uncompressSource_flexible uncompressed succeeded flexible

/-- A call that goes well without the flag does the same with it. -/
theorem uncompressChunkOrAll_flexible
    (uncompressed : object.uncompressChunkOrAll zlib.toZlib false destLen source flushMode =
      some result) (succeeded : result.code = .ok) (flexible : Bool) :
    object.uncompressChunkOrAll zlib.toZlib flexible destLen source flushMode = some result := by
  obtain ⟨inner, called, same⟩ := Option.map_eq_some_iff.mp uncompressed
  have succeeded' : inner.code = .ok := by
    by_cases full : inner.code = .bufError
    · rw [if_pos full] at same
      subst same
      exact succeeded
    · rw [if_neg full] at same
      rw [same]
      exact succeeded
  unfold uncompressChunkOrAll
  rw [uncompressAtMostOrAll_flexible called succeeded' flexible, Option.map_some, same]

theorem uncompressChunkDone_flexible {last : ZLib Inflater Deflater}
    (done : object.uncompressChunkDone zlib.toZlib false = some (true, last)) (flexible : Bool) :
    object.uncompressChunkDone zlib.toZlib flexible = some (true, last) := by
  unfold uncompressChunkDone at done ⊢
  split at done
  · cases done
  · rename_i busy
    rw [if_neg busy]
    obtain ⟨result, called, same⟩ := Option.map_eq_some_iff.mp done
    split at same
    · cases same
    · rename_i succeeded
      have succeeded' := Decidable.not_not.mp succeeded
      rw [uncompressChunkOrAll_flexible called succeeded' flexible, Option.map_some,
        if_neg succeeded]
      dsimp only at same ⊢
      cases flexible with
      | false =>
        rw [same]
      | true =>
        rw [if_neg Bool.false_ne_true] at same
        rw [if_pos rfl]
        split at same
        · cases same
        · split at same
          · exact congrArg (fun last => some (true, last)) (Prod.mk.inj same).2
          · exact congrArg (fun last => some (true, last)) (Prod.mk.inj same).2

end Flexible

/-! ### One call -/

/-- `IsMember` for a member whose header is the one of the wrapper. -/
theorem accepts_gzipHeaderBytes : GZipHeader.Accepts gzipHeaderBytes := by
  show (GZipHeader.fresh.readLoop _).2 = _
  decide +kernel

theorem readLoop_of_accepts {header : List UInt8} (accepted : GZipHeader.Accepts header)
    (rest : List UInt8) : ∃ after,
      GZipHeader.fresh.readLoop (header ++ rest) = (after, .completeHeader rest) := by
  have outcome := GZipHeader.outcome_readLoop GZipHeader.pending_fresh (header ++ rest)
  have fed := GZipHeader.decoder.feed_word_append (GZipHeader.accepts_iff.mp accepted) rest
  cases run : GZipHeader.fresh.readLoop (header ++ rest) with
  | mk after status =>
    rw [run] at outcome
    cases status with
    | incompleteHeader => cases outcome.trans fed
    | invalidHeader => cases outcome.trans fed
    | completeHeader beyond =>
      cases outcome.trans fed
      exact ⟨after, rfl⟩

section Whole

variable (inflates : InflatesWhole zlib.toZlib format at_)
  (ready : InHeader object .fresh) {bytes output : List UInt8}
  (member : IsMember zlib.toZlib format bytes output) (sourceFits : bytes.length < 2 ^ 31)
  {destLen : Nat} (enough : output.length ≤ destLen) (destFits : destLen < 2 ^ 32)

include inflates ready member sourceFits enough destFits

/-- A whole member leads to its footer. -/
theorem uncompressChunkOrAll_member :
    ∃ result, object.uncompressChunkOrAll zlib.toZlib false destLen bytes .finish = some result ∧
      result.code = .ok ∧ result.output = output ∧ result.destLen = output.length ∧
      InFooter zlib.toZlib result.object output (footerOf zlib.toZlib output) := by
  obtain ⟨header, data, _, split, accepted, decodes, rfl⟩ := member
  rw [List.append_assoc] at split
  have fed : format.feed format.start (data ++ footerOf zlib.toZlib output) =
      .last output (footerOf zlib.toZlib output) := format.feed_word_append decodes _
  obtain ⟨after, run⟩ := readLoop_of_accepts accepted (data ++ footerOf zlib.toZlib output)
  rw [← split] at run
  have atMost : object.uncompressAtMostOrAll zlib.toZlib false destLen bytes .finish =
      ({ object with gzipFooterBytes := -1, gzipHeader := after, crc := zlib.crc32 0 [] } :
        ZLib Inflater Deflater).uncompressSource zlib.toZlib false destLen
          (data ++ footerOf zlib.toZlib output) .finish := by
    have pending : ({ object with gzipFooterBytes := -1 } :
        ZLib Inflater Deflater).gzipHeader.Pending := ready.parsed ▸ GZipHeader.pending_fresh
    have run' : ({ object with gzipFooterBytes := -1 } :
        ZLib Inflater Deflater).gzipHeader.readLoop bytes = (after, .completeHeader _) :=
      ready.parsed ▸ run
    unfold uncompressAtMostOrAll
    rw [if_pos ready.first, if_pos ready.mode.gzip]
    exact (readHeader_beyond pending sourceFits run' false destLen .finish).2
  have shorter : (data ++ footerOf zlib.toZlib output).length < 2 ^ 32 := by
    rw [split, List.length_append] at sourceFits
    omega
  have present : (data ++ footerOf zlib.toZlib output).length ≠ 0 := by
    rw [List.length_append, length_footerOf]
    omega
  have mode : ({ object with
      gzipFooterBytes := -1, gzipHeader := after, crc := zlib.crc32 0 [] } :
      ZLib Inflater Deflater).GzipMode := ready.mode.congr rfl ready.mode.footerSize
  obtain ⟨begun, body, availIn, availOut, source⟩ := uncompressSource_first inflates.toInflates mode
    ready.first rfl rfl ready.stream shorter destFits .finish
  rw [if_neg present] at source
  obtain ⟨stream, live, reads⟩ := body.stream
  obtain ⟨next, call⟩ := inflates.whole stream _ _ destLen reads _ _ fed enough
  obtain ⟨result, concluded, went, said, length, footer⟩ := inflateSource_of_end
    inflates.toInflates body shorter destFits availIn availOut live fed
    (Nat.le_of_eq (length_footerOf zlib.toZlib output)) enough call
  refine ⟨result, ?_, went, said, length, footer⟩
  unfold uncompressChunkOrAll
  rw [atMost, source, concluded, Option.map_some, if_neg (by rw [went]; nofun)]

/-- `Uncompress` reads the member back. -/
theorem uncompress_member (flexible : Bool) :
    ∃ result, object.uncompress zlib flexible destLen bytes = some result ∧ result.code = .ok ∧
      result.output = output ∧ result.destLen = output.length := by
  obtain ⟨result, called, went, said, length, footer⟩ := uncompressChunkOrAll_member inflates ready
    member sourceFits enough destFits
  obtain ⟨final, done⟩ := (uncompressChunkDone_iff inflates.toInflates (show
    Represents zlib.toZlib at_ result.object
      (.footer output (footerOf zlib.toZlib output) : Phase State) from footer)).mpr ⟨output, rfl⟩
  refine ⟨{ result with code := .ok, object := final }, ?_, rfl, said, length⟩
  unfold uncompress
  rw [uncompressChunkOrAll_flexible called went flexible, Option.bind_some,
    if_neg (not_not_intro went), uncompressChunkDone_flexible done flexible]
  rfl

end Whole

/-! ### An allocated buffer -/

/-- The length that a member ends with. -/
theorem gzipUncompressedLength_append {front : List UInt8} (present : front ≠ [])
    (length : Nat) :
    gzipUncompressedLength (front ++ littleEndian 4 length) = length % 2 ^ 32 := by
  have long : ¬ (front ++ littleEndian 4 length).length ≤ 4 := by
    have some := List.length_pos_of_ne_nil present
    rw [List.length_append, length_littleEndian]
    omega
  obtain ⟨first, second, third, fourth, nothing, split, none⟩ :=
    exists_four 0 (length_littleEndian 4 length)
  obtain rfl := List.length_eq_zero_iff.mp none
  have value := fromLittleEndian_littleEndian 4 length
  rw [split] at long value ⊢
  have reads (offset : Nat) (index : Nat) (same : index = front.length + offset) :
      (front ++ [first, second, third, fourth]).getD index 0 =
        [first, second, third, fourth].getD offset 0 := by
    rw [same, List.getD_eq_getElem?_getD, List.getElem?_append_right (Nat.le_add_right _ _),
      Nat.add_sub_cancel_left, ← List.getD_eq_getElem?_getD]
  have whole : (front ++ [first, second, third, fourth]).length = front.length + 4 :=
    List.length_append
  unfold gzipUncompressedLength
  rw [if_neg long, reads 3 _ (by omega), reads 2 _ (by omega), reads 1 _ (by omega),
    reads 0 _ (by omega)]
  simp only [List.getD_cons_zero, List.getD_cons_succ, Nat.shiftLeft_eq]
  simp only [fromLittleEndian] at value
  omega

theorem gzipUncompressedLength_member {bytes output : List UInt8}
    (member : IsMember zlib.toZlib format bytes output) (short : output.length < 2 ^ 32) :
    gzipUncompressedLength bytes = output.length := by
  obtain ⟨header, data, _, rfl, accepted, -, rfl⟩ := member
  have present : header ++ data ++ littleEndian 4 (zlib.crc32 0 output).toNat ≠ [] := by
    refine List.append_ne_nil_of_right_ne_nil _ (List.ne_nil_of_length_pos ?_)
    rw [length_littleEndian]
    decide
  rw [footerOf, ← List.append_assoc, gzipUncompressedLength_append present,
    Nat.mod_mod, Nat.mod_eq_of_lt short]

/-- `UncompressGzipAndAllocate` returns a buffer with what the member says. -/
theorem uncompressGzipAndAllocate_member (inflates : InflatesWhole zlib.toZlib format at_)
    (ready : InHeader object .fresh) {bytes output : List UInt8}
    (member : IsMember zlib.toZlib format bytes output) (sourceFits : bytes.length < 2 ^ 31)
    (short : output.length < 2 ^ 32) {destLen : Nat} (enough : output.length ≤ destLen)
    {malloc : Nat → Bool} (allocates : malloc output.length = true) (flexible : Bool) :
    ∃ last, object.uncompressGzipAndAllocate zlib flexible malloc destLen bytes =
      some ⟨.ok, some output, output.length, last⟩ := by
  obtain ⟨result, called, went, said, length⟩ := uncompress_member inflates ready member sourceFits
    (Nat.le_refl _) short flexible
  refine ⟨result.object, ?_⟩
  unfold uncompressGzipAndAllocate
  dsimp only
  rw [gzipUncompressedLength_member member short, ready.mode.gzip,
    if_neg (Bool.eq_false_iff.mp rfl).symm, if_neg (Nat.not_lt_of_le enough), allocates,
    if_neg (Bool.eq_false_iff.mp rfl).symm, called, Option.map_some, if_pos went, went, said,
    length]

/-! ### Chunks -/

/-- `Accepts` with either value of the flag. -/
def Reads (zlib : WholeZlib Inflater Deflater) (flexible : Bool) (object : ZLib Inflater Deflater)
    (calls : List Call) (output : List UInt8) : Prop :=
  ∃ results last final, uncompressChunks zlib.toZlib flexible object calls = some (results, last) ∧
    (∀ result ∈ results, result.1 = .ok) ∧ (results.map Prod.snd).flatten = output ∧
    last.uncompressChunkDone zlib.toZlib flexible = some (true, final)

theorem uncompressChunks_flexible {calls : List Call} {results : List (ZCode × List UInt8)}
    {last : ZLib Inflater Deflater}
    (ran : uncompressChunks zlib.toZlib false object calls = some (results, last))
    (succeed : ∀ result ∈ results, result.1 = .ok) (flexible : Bool) :
    uncompressChunks zlib.toZlib flexible object calls = some (results, last) := by
  induction calls generalizing object results with
  | nil => exact ran
  | cons call calls inductionHypothesis =>
    obtain ⟨result, called, rest⟩ := Option.bind_eq_some_iff.mp ran
    obtain ⟨⟨others, last'⟩, later, same⟩ := Option.map_eq_some_iff.mp rest
    cases same
    obtain ⟨went, others'⟩ := List.forall_mem_cons.mp succeed
    have called' : object.uncompressChunk zlib.toZlib flexible call.destLen call.chunk =
        some result := uncompressChunkOrAll_flexible called went flexible
    rw [uncompressChunks, called', Option.bind_some, inductionHypothesis later others']
    rfl

/-- Chunks of a member read it back. -/
theorem reads_member (inflates : InflatesWhole zlib.toZlib format at_)
    (ready : InHeader object .fresh) {calls : List Call} {output : List UInt8}
    (member : IsMember zlib.toZlib format (bytesOf calls) output)
    (fit : AllFit format .start calls) (flexible : Bool) :
    Reads zlib flexible object calls output := by
  have represents : Represents zlib.toZlib at_ object (.start : Phase State) := ready
  obtain ⟨results, last, final, ran, succeed, flat, done⟩ :=
    (accepts_iff_phase inflates.toInflates represents fit output).mpr
      ((Phase.isMember_iff format zlib.toZlib).mp member)
  exact ⟨results, last, final, uncompressChunks_flexible ran succeed flexible, succeed, flat,
    uncompressChunkDone_flexible done flexible⟩

/-! ### What is written is read back -/

/-- Compression in gzip mode, in chunks or in one call, writes a member, and decompression in gzip
mode reads it back, in one call, into an allocated buffer or in chunks. -/
theorem gzip_roundTrip {opened : Deflater → Parameters → Prop}
    {writing : Deflater → List UInt8 → List UInt8 → Prop} (reuses : zlib.Reuses opened)
    (deflates : zlib.Deflates format writing) (inflates : InflatesWhole zlib.toZlib format at_)
    {writer : ZLib Inflater Deflater} (starts : writer.Starts opened) {assertions : Bool}
    {calls : MemberCalls} (short : calls.source.length < 2 ^ 31)
    {results : List (Compressed Inflater Deflater)}
    (ran : writer.compressAll zlib assertions calls = some results)
    (succeed : ∀ result ∈ results, Succeeds result) :
    (∀ result ∈ results, Measured result) ∧
      (∃ data,
        results.flatMap Compressed.output =
            gzipHeaderBytes ++ data ++ footerOf zlib.toZlib calls.source ∧
          format.Decodes data calls.source) ∧
      ∀ (reader : ZLib Inflater Deflater) (flexible : Bool), InHeader reader .fresh →
        ((results.flatMap Compressed.output).length < 2 ^ 31 →
          ∃ result, reader.uncompress zlib flexible calls.source.length
              (results.flatMap Compressed.output) = some result ∧
            result.code = .ok ∧ result.output = calls.source ∧
            result.destLen = calls.source.length) ∧
        ((results.flatMap Compressed.output).length < 2 ^ 31 →
          ∀ destLen malloc, calls.source.length ≤ destLen → malloc calls.source.length = true →
            ∃ last, reader.uncompressGzipAndAllocate zlib flexible malloc destLen
              (results.flatMap Compressed.output) =
                some ⟨.ok, some calls.source, calls.source.length, last⟩) ∧
        ∀ reads, bytesOf reads = results.flatMap Compressed.output →
          AllFit format .start reads → Reads zlib flexible reader reads calls.source := by
  obtain ⟨measured, data, written, decodes⟩ :=
    compressAll_member reuses deflates inflates.toInflates starts ran succeed
  have member : IsMember zlib.toZlib format (results.flatMap Compressed.output) calls.source :=
    ⟨gzipHeaderBytes, data, _, written, accepts_gzipHeaderBytes, decodes, rfl⟩
  have short' : calls.source.length < 2 ^ 32 := Nat.lt_trans short (by decide)
  refine ⟨measured, ⟨data, written, decodes⟩, fun reader flexible ready => ⟨?_, ?_, ?_⟩⟩
  · intro fits
    exact uncompress_member inflates ready member fits (Nat.le_refl _) short' flexible
  · intro fits destLen malloc enough allocates
    exact uncompressGzipAndAllocate_member inflates ready member fits short' enough allocates
      flexible
  · intro reads split fit
    exact reads_member inflates ready (split ▸ member) fit flexible

end ZLib

/-! ### Stored blocks -/

/-- Some blocks and a last one. -/
theorem storedBlocks_eq (final : Bool) (bytes : List UInt8) :
    ∃ (blocks : List (List UInt8)) (last : List UInt8),
    storedBlocks final bytes = blocks.flatMap (storedBlock false) ++ storedBlock final last ∧
      bytes = blocks.flatten ++ last ∧ (∀ block ∈ blocks, block.length < 65536) ∧
      last.length < 65536 := by
  induction bytes using storedBlocks.induct with
  | case1 bytes short =>
    rw [storedBlocks, if_pos short]
    exact ⟨[], bytes, rfl, rfl, List.forall_mem_nil _, Nat.lt_succ_of_le short⟩
  | case2 bytes long inductionHypothesis =>
    obtain ⟨blocks, last, same, split, short, shortLast⟩ := inductionHypothesis
    refine ⟨bytes.take 65535 :: blocks, last, ?_, ?_, List.forall_mem_cons.mpr ⟨?_, short⟩,
      shortLast⟩
    · rw [storedBlocks, if_neg long, same, List.flatMap_cons, List.append_assoc]
    · rw [List.flatten_cons, List.append_assoc, ← split, List.take_append_drop]
    · exact Nat.lt_of_le_of_lt (List.length_take_le _ _) (by decide)

/-- The blocks that were put out or are to be put out say what was read. -/
def StoredDeflater.Writing (stream : StoredDeflater) (read written : List UInt8) : Prop :=
  stream.windowBits < 0 ∧ stream.ended = false ∧ ∃ blocks : List (List UInt8),
    written ++ stream.pending = blocks.flatMap (storedBlock false) ∧ read = blocks.flatten ∧
      ∀ block ∈ blocks, block.length < 65536

theorem StoredDeflater.Writing.extended {stream : StoredDeflater} {read written : List UInt8}
    (writing : stream.Writing read written) (input : List UInt8) (flushMode : Flush) :
    (stream.extended input flushMode).pending =
        stream.pending ++ stream.produced input flushMode ∧
      (stream.extended input flushMode).ended = decide (flushMode = .finish) ∧
      (stream.extended input flushMode).windowBits = stream.windowBits := by
  obtain ⟨raw, unended, -⟩ := writing
  have noOpening : stream.opening = [] := if_neg fun both => by omega
  unfold StoredDeflater.extended
  rw [unended, if_neg Bool.false_ne_true]
  exact ⟨by rw [noOpening, List.append_nil], rfl, rfl⟩

/-- A flush ends with an empty block. -/
theorem StoredDeflater.produced_syncFlush (stream : StoredDeflater) (input : List UInt8) :
    ∃ blocks : List (List UInt8),
      stream.produced input .syncFlush = blocks.flatMap (storedBlock false) ∧
        input = blocks.flatten ∧ ∀ block ∈ blocks, block.length < 65536 := by
  unfold StoredDeflater.produced
  by_cases empty : input = []
  · rw [if_pos empty]
    refine ⟨[[]], ?_, empty, List.forall_mem_singleton.mpr (by decide)⟩
    rw [List.flatMap_singleton, List.nil_append]
  · rw [if_neg empty]
    obtain ⟨blocks, last, same, split, short, shortLast⟩ := storedBlocks_eq false input
    refine ⟨blocks ++ [last, []], ?_, ?_, ?_⟩
    · rw [same, List.flatMap_append, List.append_assoc]
      rfl
    · rw [List.flatten_append, split]
      simp only [List.flatten_cons, List.flatten_nil, List.append_nil]
    · refine List.forall_mem_append.mpr ⟨short, List.forall_mem_cons.mpr ⟨shortLast, ?_⟩⟩
      exact List.forall_mem_singleton.mpr (by decide)

namespace StoredDeflater

variable {stream : StoredDeflater} {read written : List UInt8}

theorem length_deflate_le (stream : StoredDeflater) (input : List UInt8) (room : Nat)
    (flushMode : Flush) : (stream.deflate input room flushMode).output.length ≤ room := by
  unfold deflate
  split
  · exact Nat.zero_le _
  · split
    · exact Nat.zero_le _
    · exact List.length_take_le _ _

/-- A flush that makes progress reads all input. -/
theorem Writing.syncFlush (writing : stream.Writing read written) (input : List UInt8) {room : Nat}
    (went : (stream.deflate input room .syncFlush).code = .ok) :
    (stream.deflate input room .syncFlush).consumed = input.length ∧
      (stream.deflate input room .syncFlush).next.Writing
        (read ++ input.take (stream.deflate input room .syncFlush).consumed)
        (written ++ (stream.deflate input room .syncFlush).output) := by
  obtain ⟨pending, ended, windowBits⟩ := writing.extended input .syncFlush
  obtain ⟨raw, unended, blocks, front, said, short⟩ := writing
  unfold deflate at went ⊢
  rw [unended, if_neg fun both => Bool.false_ne_true both.1] at went ⊢
  by_cases full : room = 0
  · rw [if_pos full] at went
    cases went
  · rw [if_neg full]
    obtain ⟨more, produced, said', short'⟩ := stream.produced_syncFlush input
    refine ⟨rfl, windowBits ▸ raw, ended, blocks ++ more, ?_, ?_,
      List.forall_mem_append.mpr ⟨short, short'⟩⟩
    · dsimp only
      rw [List.append_assoc, List.take_append_drop, pending, ← List.append_assoc, front, produced,
        List.flatMap_append]
    · rw [List.take_length, List.flatten_append, said, ← said']

/-- A flush does not end the stream. -/
theorem syncFlush_ne_streamEnd (stream : StoredDeflater) (input : List UInt8) (room : Nat) :
    (stream.deflate input room .syncFlush).code ≠ .streamEnd := by
  unfold deflate
  split
  · nofun
  · rename_i live
    have unended : stream.ended ≠ true := fun ended => live ⟨ended, .inr (by decide)⟩
    have goesOn : (stream.extended input .syncFlush).ended = false := by
      unfold extended
      rw [if_neg unended]
      rfl
    split
    · nofun
    · dsimp only
      rw [goesOn, if_neg fun both => Bool.false_ne_true both.1]
      nofun

/-- The end that is not reached yet fills the room. -/
theorem finish_full {input : List UInt8} {room : Nat}
    (went : (stream.deflate input room .finish).code = .ok) :
    (stream.deflate input room .finish).output.length = room := by
  have ended : (stream.extended input .finish).ended = true := by
    unfold extended
    split
    · assumption
    · rfl
  unfold deflate at went ⊢
  split at went
  · cases went
  · rename_i live
    rw [if_neg live]
    split at went
    · cases went
    · rename_i some
      rw [if_neg some]
      dsimp only at went ⊢
      by_cases whole : (stream.extended input .finish).pending.drop room = []
      · rw [if_pos ⟨ended, whole⟩] at went
        cases went
      · rw [List.length_take, Nat.min_eq_left]
        exact Nat.le_of_lt (Nat.lt_of_not_le (mt List.drop_eq_nil_of_le whole))

/-- At the end the blocks that were put out say all that was read. -/
theorem Writing.finish (writing : stream.Writing read written) (input : List UInt8) {room : Nat}
    (went : (stream.deflate input room .finish).code = .streamEnd) :
    (stream.deflate input room .finish).consumed = input.length ∧
      storedFormat.Decodes (written ++ (stream.deflate input room .finish).output)
        (read ++ input) := by
  obtain ⟨pending, -, -⟩ := writing.extended input .finish
  obtain ⟨raw, unended, blocks, front, said, short⟩ := writing
  have produced : stream.produced input .finish = storedBlocks true input := by
    have unwrapped : ¬ 0 < stream.windowBits := by omega
    unfold StoredDeflater.produced
    dsimp only
    rw [if_neg unwrapped, List.append_nil]
  unfold deflate at went ⊢
  rw [unended, if_neg fun both => Bool.false_ne_true both.1] at went ⊢
  by_cases full : room = 0
  · rw [if_pos full] at went
    cases went
  · rw [if_neg full] at went ⊢
    dsimp only at went ⊢
    have whole : (stream.extended input .finish).pending.drop room = [] :=
      Classical.byContradiction fun left => by
        rw [if_neg fun both => left both.2] at went
        cases went
    obtain ⟨others, last, same, split, short', shortLast⟩ := storedBlocks_eq true input
    refine ⟨rfl, ?_⟩
    rw [List.take_of_length_le (List.drop_eq_nil_iff.mp whole), pending, produced,
      ← List.append_assoc, front, same, ← List.append_assoc, ← List.flatMap_append, said, split,
      ← List.append_assoc, ← List.flatten_append]
    exact decodes_storedBlocks (List.forall_mem_append.mpr ⟨short, short'⟩) shortLast

end StoredDeflater

theorem deflates_storedZlib :
    storedZlib.Deflates storedFormat StoredDeflater.Writing where
  init level windowBits memLevel fresh raw started := by
    cases started
    exact ⟨raw, rfl, [], rfl, rfl, List.forall_mem_nil _⟩
  fits := StoredDeflater.length_deflate_le
  more stream read written input room writing went := by
    obtain ⟨consumed, next⟩ := writing.syncFlush input went
    exact ⟨.inr consumed, next⟩
  unended := StoredDeflater.syncFlush_ne_streamEnd
  full stream input room went := StoredDeflater.finish_full went
  last stream read written input room writing went := writing.finish input went

theorem inflatesWhole_storedZlib : InflatesWhole storedZlib.toZlib storedFormat (· = ·) where
  init := (inflates_zlibOf storedFormat).init
  reset := (inflates_zlibOf storedFormat).reset
  more := (inflates_zlibOf storedFormat).more
  last := (inflates_zlibOf storedFormat).last
  bad stream state input room same output fed enough := by
    subst same
    exact inflateWith_stuck fed enough _
  starved := (inflates_zlibOf storedFormat).starved
  crc := (inflates_zlibOf storedFormat).crc
  whole stream state input room same output unread fed enough := by
    subst same
    obtain ⟨next, call⟩ := inflateFrom_last fed enough
    refine ⟨next, ?_⟩
    show inflateWith storedFormat stream input room .finish = _
    rw [inflateWith, call]
    exact if_neg (by simp)

namespace ZLib

theorem starts_gzipObject :
    gzipObject.Starts fun stream parameters => parameters = storedParameters stream where
  settings := ⟨rfl, rfl, rfl, by decide⟩
  first := rfl
  compOpen := nofun

/-- Three bytes in two chunks. -/
def twoChunks : MemberCalls :=
  .chunked [⟨[0x61], 100⟩, ⟨[0x62, 0x63], 100⟩] 100

theorem gzip_roundTrip_twoChunks :
    ∃ results, gzipObject.compressAll storedZlib true twoChunks = some results ∧
      ∃ result, (newGzip storedZlib.toZlib).uncompress storedZlib false 3
          (results.flatMap Compressed.output) = some result ∧
        result.code = .ok ∧ result.output = [0x61, 0x62, 0x63] ∧ result.destLen = 3 := by
  have checked : (gzipObject.compressAll storedZlib true twoChunks).any (fun results =>
      (results.all fun result => result.code = .ok ∧ result.written.length < 2 ^ 31) ∧
        (results.flatMap Compressed.output).length < 2 ^ 31) = true := by
    decide +kernel
  cases ran : gzipObject.compressAll storedZlib true twoChunks with
  | none =>
    rw [ran] at checked
    cases checked
  | some results =>
    rw [ran] at checked
    obtain ⟨succeed, fits⟩ := of_decide_eq_true checked
    obtain ⟨-, -, back⟩ := gzip_roundTrip reuses_storedZlib deflates_storedZlib
      inflatesWhole_storedZlib starts_gzipObject (show twoChunks.source.length < 2 ^ 31 by decide)
      ran fun result member => by
        obtain ⟨code, few⟩ := of_decide_eq_true (List.all_eq_true.mp succeed result member)
        exact ⟨code, few⟩
    exact ⟨results, rfl, (back _ false (inHeader_newGzip _)).1 fits⟩

/-! ### Long members -/

/-- A call whose call of `deflate` uses up the source and leaves room. -/
theorem compressChunkOrAll_of_deflate {Inflater Deflater : Type}
    {zlib : WholeZlib Inflater Deflater} {object : ZLib Inflater Deflater} {stream : Deflater}
    {destLen : Nat} {source : List UInt8} {flushMode : Flush} {deflated : Deflated Deflater}
    (later : object.firstChunk = false)
    (found : object.compStream.state = some stream) (sourceFits : source.length < 2 ^ 32)
    (destFits : destLen < 2 ^ 32)
    (call : zlib.deflate stream source destLen flushMode = deflated)
    (went : deflated.code = .streamEnd ∨ deflated.code = .ok)
    (used : deflated.consumed = source.length) (room : deflated.output.length < destLen) :
    ∃ result, object.compressChunkOrAll zlib destLen source flushMode = result ∧
      result.code = .ok ∧ result.written = deflated.output ∧
      result.destLen =
        compressedSize ((object.compStream.totalOut + deflated.output.length) % 2 ^ 64)
          (toInt object.compStream.totalOut) ∧
      result.object.settings = object.settings ∧ result.object.firstChunk = false ∧
      result.object.compStream.state = some deflated.next := by
  have narrowed : source.length % 2 ^ 32 = source.length := Nat.mod_eq_of_lt sourceFits
  have narrowed' : destLen % 2 ^ 32 = destLen := Nat.mod_eq_of_lt destFits
  have ready : object.compressInit zlib destLen source.length =
      (.ok, object.withCompBuffers source.length destLen) := by
    rw [compressInit_eq, if_neg (not_not_intro narrowed), if_neg (not_not_intro narrowed'), later,
      if_neg Bool.false_ne_true]
  have called : (object.withCompBuffers source.length destLen).compStream.deflate zlib source
      flushMode = (deflated.code, deflated.output, {
        state := some deflated.next
        availIn := 0
        availOut := destLen - deflated.output.length
        totalIn := (object.compStream.totalIn + deflated.consumed) % 2 ^ 64
        totalOut := (object.compStream.totalOut + deflated.output.length) % 2 ^ 64 }) := by
    unfold ZStream.deflate withCompBuffers
    rw [found]
    dsimp only
    rw [narrowed, narrowed', List.take_length, call, used, Nat.sub_self]
  have later' : (object.withCompBuffers source.length destLen).firstChunk = false := later
  have reported : (if deflated.code = .streamEnd then ZCode.ok else deflated.code) = .ok := by
    rcases went with ended | ok
    · exact if_pos ended
    · rw [ok]
      rfl
  have left : destLen - deflated.output.length ≠ 0 := by omega
  obtain ⟨result, same, code, rest⟩ : ∃ result,
      object.compressAtMostOrAll zlib destLen source flushMode = result ∧ result.code = .ok ∧
        result.written = deflated.output ∧
        result.destLen =
          compressedSize ((object.compStream.totalOut + deflated.output.length) % 2 ^ 64)
            (toInt object.compStream.totalOut) ∧
        result.object.settings = object.settings ∧ result.object.firstChunk = false ∧
        result.object.compStream.state = some deflated.next := by
    unfold compressAtMostOrAll
    rw [ready]
    dsimp only
    rw [if_neg (not_not_intro rfl), later', if_neg Bool.false_ne_true]
    unfold deflateSource
    rw [called]
    unfold concludeDeflate
    dsimp only
    rw [if_pos ⟨went, rfl, left⟩]
    exact ⟨_, rfl, reported, rfl, rfl, rfl, later, rfl⟩
  refine ⟨result, ?_, code, rest⟩
  unfold compressChunkOrAll
  rw [same]
  dsimp only
  rw [if_neg (by rw [code]; nofun)]

/-- The object has compressed chunks and its stream has put out all of them. -/
structure Flushed (object : ZLib StoredState StoredDeflater) : Prop where
  gzip : object.settings.gzipHeaderMode = true
  later : object.firstChunk = false
  stream : ∃ stream, object.compStream.state = some stream ∧ stream.windowBits < 0 ∧
    stream.ended = false ∧ stream.pending = []

/-- What a flushed stream puts out. -/
theorem deflate_flushed {stream : StoredDeflater} (raw : stream.windowBits < 0)
    (unended : stream.ended = false) (flushed : stream.pending = []) {input : List UInt8}
    {flushMode : Flush} {room : Nat} (enough : (stream.produced input flushMode).length < room) :
    ∃ next, stream.deflate input room flushMode =
        ⟨if flushMode = .finish then .streamEnd else .ok, input.length,
          stream.produced input flushMode, next⟩ ∧
      next.windowBits < 0 ∧ next.ended = decide (flushMode = .finish) ∧ next.pending = [] := by
  have noOpening : stream.opening = [] := if_neg fun both => by omega
  have some : room ≠ 0 := by omega
  unfold StoredDeflater.deflate
  rw [unended, if_neg fun both => Bool.false_ne_true both.1, if_neg some]
  unfold StoredDeflater.extended
  rw [unended, if_neg Bool.false_ne_true]
  dsimp only
  rw [flushed, noOpening, List.nil_append, List.nil_append,
    List.drop_eq_nil_of_le (Nat.le_of_lt enough), List.take_of_length_le (Nat.le_of_lt enough)]
  cases flushMode with
  | syncFlush => exact ⟨_, rfl, raw, rfl, rfl⟩
  | finish => exact ⟨_, rfl, raw, rfl, rfl⟩

/-- A chunk of one byte becomes a block of six bytes and an empty one. -/
theorem compressChunk_oneByte {object : ZLib StoredState StoredDeflater}
    (flushed : object.Flushed) :
    Succeeds (object.compressChunk storedZlib 100 [0x61]) ∧
      (object.compressChunk storedZlib 100 [0x61]).written.length = 11 ∧
      (object.compressChunk storedZlib 100 [0x61]).object.Flushed := by
  obtain ⟨stream, found, raw, unended, pending⟩ := flushed.stream
  have produced : (stream.produced [0x61] .syncFlush).length = 11 := by
    have blocks : ((if ([0x61] : List UInt8) = [] then [] else storedBlocks false [0x61]) ++
        storedBlock false []).length = 11 := by decide +kernel
    exact blocks
  have room : (stream.produced [0x61] .syncFlush).length < 100 := by
    rw [produced]
    decide
  have fits : ([0x61] : List UInt8).length < 2 ^ 32 := by decide
  obtain ⟨next, deflated, raw', unended', pending'⟩ := deflate_flushed raw unended pending room
  have call : storedZlib.deflate stream [0x61] 100 .syncFlush = _ := deflated
  obtain ⟨result, called, code, written, -, settings, later, state⟩ :=
    compressChunkOrAll_of_deflate flushed.later found fits (by decide) call (.inr rfl) rfl room
  have length : result.written.length = 11 := (congrArg List.length written).trans produced
  unfold compressChunk
  rw [called]
  exact ⟨⟨code, by rw [length]; decide⟩, length, settings ▸ flushed.gzip, later, next, state, raw',
    unended', pending'⟩

/-- Any number of chunks of one byte. -/
def oneByteChunks (count : Nat) : List Call :=
  List.replicate count ⟨[0x61], 100⟩

theorem compressChunks_oneByte {object : ZLib StoredState StoredDeflater}
    (flushed : object.Flushed) (count : Nat) :
    (∀ result ∈ (object.compressChunks storedZlib (oneByteChunks count)).1,
        Succeeds result ∧ result.written.length = 11) ∧
      (object.compressChunks storedZlib (oneByteChunks count)).1.length = count ∧
      (object.compressChunks storedZlib (oneByteChunks count)).2.Flushed := by
  induction count generalizing object with
  | zero => exact ⟨List.forall_mem_nil _, rfl, flushed⟩
  | succ count inductionHypothesis =>
    obtain ⟨succeeds, length, flushed'⟩ := compressChunk_oneByte flushed
    obtain ⟨succeed, many, last⟩ := inductionHypothesis flushed'
    exact ⟨List.forall_mem_cons.mpr ⟨⟨succeeds, length⟩, succeed⟩,
      congrArg (· + 1) many, last⟩

theorem compressChunkDone_flushed {object : ZLib StoredState StoredDeflater}
    (flushed : object.Flushed) :
    ∃ closed, object.compressChunkDone storedZlib false 100 = some closed ∧ Succeeds closed := by
  obtain ⟨stream, found, raw, unended, pending⟩ := flushed.stream
  have produced : (stream.produced [] .finish).length = 5 := by
    have unwrapped : ¬ 0 < stream.windowBits := by omega
    have block : (storedBlocks true []).length = 5 := by decide +kernel
    unfold StoredDeflater.produced
    dsimp only
    rw [if_neg unwrapped, List.append_nil, block]
  have room : (stream.produced [] .finish).length < 100 := by
    rw [produced]
    decide
  have fits : ([] : List UInt8).length < 2 ^ 32 := by decide
  obtain ⟨next, deflated, -⟩ := deflate_flushed raw unended pending room
  have call : storedZlib.deflate stream [] 100 .finish = _ := deflated
  obtain ⟨result, called, code, written, destLen, settings, -⟩ :=
    compressChunkOrAll_of_deflate flushed.later found fits (by decide) call (.inl rfl) rfl room
  have length : result.written.length = 5 := (congrArg List.length written).trans produced
  have measured : result.destLen = result.written.length := by
    have few : 0 + (stream.produced [] .finish).length < 2 ^ 31 := by
      rw [produced]
      decide
    have size := @compressedSize_eq object.compStream.totalOut _ _ few
    rw [Int.natCast_zero, Int.sub_zero, Nat.zero_add] at size
    exact destLen.trans (size.trans (congrArg List.length written).symm)
  have footerSize : object.minFooterSize = 10 := by
    unfold minFooterSize
    rw [if_pos flushed.gzip]
  have gzip : result.object.reset.settings.gzipHeaderMode = true := settings ▸ flushed.gzip
  unfold compressChunkDone
  rw [footerSize, if_neg (by decide), if_neg fun both => Bool.false_ne_true both.1, called]
  dsimp only
  rw [if_neg (not_not_intro code)]
  refine ⟨_, rfl, ?_⟩
  unfold Compressed.finish writeGzipFooter
  dsimp only
  rw [if_pos gzip, measured, if_neg (by rw [length]; decide)]
  refine ⟨rfl, ?_⟩
  dsimp only
  rw [overwrite_length, List.length_append, List.length_append, footerBytes_eq, footerBytes_eq,
    length_littleEndian, length_littleEndian, length]
  decide

/-- The object behind the first chunk of a member. -/
def begunObject : ZLib StoredState StoredDeflater :=
  (gzipObject.compressChunk storedZlib 100 [0x61]).object

theorem flushed_begunObject :
    Succeeds (gzipObject.compressChunk storedZlib 100 [0x61]) ∧ begunObject.Flushed := by
  have checked : ((gzipObject.compressChunk storedZlib 100 [0x61]).code = .ok ∧
      (gzipObject.compressChunk storedZlib 100 [0x61]).written.length < 2 ^ 31) ∧
      begunObject.settings.gzipHeaderMode = true ∧ begunObject.firstChunk = false := by
    decide +kernel
  have stream : begunObject.compStream.state.any (fun stream =>
      stream.windowBits < 0 ∧ stream.ended = false ∧ stream.pending = []) = true := by
    decide +kernel
  refine ⟨⟨checked.1.1, checked.1.2⟩, checked.2.1, checked.2.2, ?_⟩
  cases found : begunObject.compStream.state with
  | none =>
    rw [found] at stream
    cases stream
  | some state =>
    rw [found] at stream
    exact ⟨state, rfl, of_decide_eq_true stream⟩

theorem length_flatMap_written {results : List (Compressed StoredState StoredDeflater)}
    {length : Nat} (each : ∀ result ∈ results, result.written.length = length) :
    (results.flatMap Compressed.written).length = length * results.length := by
  induction results with
  | nil => rfl
  | cons result results inductionHypothesis =>
    obtain ⟨first, others⟩ := List.forall_mem_cons.mp each
    rw [List.flatMap_cons, List.length_append, first, inductionHypothesis others, List.length_cons,
      Nat.mul_succ, Nat.add_comm]

/-- Chunks of one byte make a member as long as one likes. -/
theorem compressAll_oneByte (count : Nat) : ∃ results,
    gzipObject.compressAll storedZlib false (.chunked (oneByteChunks (count + 1)) 100) =
        some results ∧
      (∀ result ∈ results, Succeeds result) ∧
      11 * count ≤ (results.flatMap Compressed.written).length := by
  obtain ⟨first, flushed⟩ := flushed_begunObject
  obtain ⟨succeed, many, last⟩ := compressChunks_oneByte flushed count
  obtain ⟨closed, done, closes⟩ := compressChunkDone_flushed last
  refine ⟨_, congrArg (Option.map _) done, ?_, ?_⟩
  · refine List.forall_mem_append.mpr ⟨List.forall_mem_cons.mpr ⟨first, ?_⟩,
      List.forall_mem_singleton.mpr closes⟩
    exact fun result member => (succeed result member).1
  · have between := length_flatMap_written fun result member => (succeed result member).2
    rw [many] at between
    rw [List.flatMap_append, List.length_append]
    unfold oneByteChunks at between ⊢
    rw [List.replicate_succ, compressChunks]
    dsimp only
    rw [List.flatMap_cons, List.length_append]
    unfold begunObject at between
    omega

/-- An object that reports the end of the stream. -/
def tellingObject : ZLib StoredState StoredDeflater :=
  { newGzip storedZlib.toZlib with settings.dontHideZstreamEnd := true }

/-- A member that was written is not read back by an object that reports the end of the stream, and
a long one not in chunks whose lengths do not fit in an unsigned int. -/
theorem not_gzip_roundTrip_streamEnd_longChunk :
    ((∃ opened, storedZlib.Reuses opened) ∧
        storedZlib.Deflates storedFormat StoredDeflater.Writing ∧
        InflatesWhole storedZlib.toZlib storedFormat (· = ·)) ∧
      ((gzipObject.compress storedZlib 100 [0x61]).code = .ok ∧
        (tellingObject.uncompress storedZlib false 1
          (gzipObject.compress storedZlib 100 [0x61]).output).map (·.code) = some .streamEnd ∧
        (tellingObject.uncompressGzipAndAllocate storedZlib false (fun _ => true) 1
          (gzipObject.compress storedZlib 100 [0x61]).output).map (fun result =>
            (result.code, result.dest)) = some (.streamEnd, none)) ∧
      ∃ results front back,
        gzipObject.compressAll storedZlib false (.chunked (oneByteChunks 536870912) 100) =
            some results ∧
          (∀ result ∈ results, result.code = .ok) ∧ front ≠ [] ∧ back ≠ [] ∧
          results.flatMap Compressed.output = front ++ back ∧
          ∀ room output, ¬ Reads storedZlib false (newGzip storedZlib.toZlib)
            [⟨front, 0⟩, ⟨back, room⟩] output := by
  refine ⟨⟨⟨_, reuses_storedZlib⟩, deflates_storedZlib, inflatesWhole_storedZlib⟩,
    ⟨by decide +kernel, by decide +kernel, by decide +kernel⟩, ?_⟩
  obtain ⟨results, ran, succeed, long⟩ : ∃ results,
      gzipObject.compressAll storedZlib false (.chunked (oneByteChunks 536870912) 100) =
          some results ∧
        (∀ result ∈ results, Succeeds result) ∧
        11 * 536870911 ≤ (results.flatMap Compressed.written).length :=
    compressAll_oneByte 536870911
  obtain ⟨measured, data, written, -⟩ := compressAll_member reuses_storedZlib deflates_storedZlib
    inflatesWhole_storedZlib.toInflates starts_gzipObject ran succeed
  rw [List.append_assoc] at written
  have same : results.flatMap Compressed.output = results.flatMap Compressed.written :=
    List.flatMap_congr fun result member => output_of_measured (measured result member)
  have long' : 2 ^ 32 ≤ (data ++ footerOf storedZlib.toZlib
      (MemberCalls.chunked (oneByteChunks 536870912) 100).source).length := by
    have total := congrArg List.length (same.symm.trans written)
    rw [List.length_append] at total
    have header : gzipHeaderBytes.length = 10 := rfl
    omega
  refine ⟨results, gzipHeaderBytes, _, ran, fun result member => (succeed result member).code,
    List.cons_ne_nil _ _, List.ne_nil_of_length_pos (Nat.lt_of_lt_of_le (by decide) long'), written,
    fun room output => ?_⟩
  exact not_accepts_longData inflatesWhole_storedZlib.toInflates (inHeader_newGzip _)
    accepts_gzipHeaderBytes (List.cons_ne_nil _ _) (by decide) long' output

end ZLib

end Fleetbench.Compression
