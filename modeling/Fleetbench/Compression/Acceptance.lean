/-
This file proves which byte strings chunked decompression accepts: the
well-formed gzip members, whatever the chunks are, and its output is then what
the member decodes to.
-/

import Fleetbench.Compression.ChunkedMember
import Fleetbench.Compression.StoredBlocks

namespace Fleetbench.Compression.ZLib

open Library

variable {Inflater Deflater State : Type} {zlib : Zlib Inflater Deflater}
  {format : Decoder UInt8 UInt8 State} {at_ : Inflater → State → Prop}

/-! ### The footer -/

theorem footerWord_eq {object : ZLib Inflater Deflater} (index : Nat) (low : List UInt8)
    {high : List UInt8} {first second third fourth : UInt8} (length : low.length = index)
    (footer : object.gzipFooter = low ++ first :: second :: third :: fourth :: high) :
    object.footerWord index = fromLittleEndian [first, second, third, fourth] := by
  have reads (offset : Nat) : object.gzipFooter.getD (index + offset) 0 =
      (first :: second :: third :: fourth :: high).getD offset 0 := by
    rw [footer, ← length, List.getD_eq_getElem?_getD, List.getElem?_append_right (by omega),
      Nat.add_sub_cancel_left, ← List.getD_eq_getElem?_getD]
  have base := reads 0
  rw [Nat.add_zero] at base
  rw [footerWord, reads 1, reads 2, reads 3, base]
  simp only [List.getD_cons_zero, List.getD_cons_succ, fromLittleEndian, Nat.shiftLeft_eq]
  omega

theorem exists_four (length : Nat) {bytes : List UInt8} (long : bytes.length = length + 4) :
    ∃ first second third fourth rest,
      bytes = first :: second :: third :: fourth :: rest ∧ rest.length = length := by
  match bytes, long with
  | first :: second :: third :: fourth :: rest, long =>
    exact ⟨first, second, third, fourth, rest, rfl, by simpa using long⟩

theorem uncompressedSize_low {object : ZLib Inflater Deflater} {output kept : List UInt8}
    (footer : InFooter zlib object output kept) :
    object.uncompressedSize &&& 0xffffffff = output.length % 2 ^ 32 % 256 ^ 4 := by
  rw [footer.size]
  show _ &&& (2 ^ 32 - 1) = _
  rw [Nat.and_two_pow_sub_one_eq_mod]
  omega

/-- `IsGzipFooterValid` compares the footer with the one that the output has. -/
theorem isGzipFooterValid_iff {object : ZLib Inflater Deflater} {output kept : List UInt8}
    (footer : InFooter zlib object output kept) :
    object.isGzipFooterValid = true ↔ kept = footerOf zlib output := by
  rw [isGzipFooterValid, isGzipFooterComplete, footer.footerBytes, decide_eq_true_iff,
    decide_eq_true_iff]
  by_cases complete : kept.length = 8
  · have whole : object.gzipFooter = kept := by
      rw [← footer.kept, complete, ← footer.mode.footerSize, List.take_length]
    obtain ⟨c0, c1, c2, c3, rest, split, four⟩ := exists_four 4 complete
    obtain ⟨s0, s1, s2, s3, nothing, rfl, none⟩ := exists_four 0 four
    obtain rfl := List.length_eq_zero_iff.mp none
    have crcWord := footerWord_eq 0 [] rfl (whole.trans split)
    have sizeWord := footerWord_eq 4 [c0, c1, c2, c3] rfl (whole.trans split)
    have crcIff : object.crc.toNat = object.footerWord 0 ↔
        [c0, c1, c2, c3] = littleEndian 4 (zlib.crc32 0 output).toNat := by
      have read : fromLittleEndian [c0, c1, c2, c3] = (zlib.crc32 0 output).toNat % 256 ^ 4 ↔ _ :=
        fromLittleEndian_eq_iff rfl
      have bound : (zlib.crc32 0 output).toNat < 256 ^ 4 := UInt32.toNat_lt _
      rw [Nat.mod_eq_of_lt bound] at read
      rw [crcWord, footer.crc, eq_comm]
      exact read
    have sizeIff : object.footerWord 4 = object.uncompressedSize &&& 0xffffffff ↔
        [s0, s1, s2, s3] = littleEndian 4 (output.length % 2 ^ 32) := by
      rw [sizeWord, uncompressedSize_low footer]
      exact fromLittleEndian_eq_iff rfl
    rw [crcIff, sizeIff, split, footerOf]
    constructor
    · rintro ⟨-, size, crc⟩
      rw [← crc, ← size]
      rfl
    · intro same
      have parts := List.append_inj
        (show [c0, c1, c2, c3] ++ [s0, s1, s2, s3] = _ from same) (length_littleEndian 4 _).symm
      exact ⟨⟨by simp, by simp⟩, parts.2, parts.1⟩
  · constructor
    · rintro ⟨⟨-, eight⟩, -⟩
      exact absurd (Nat.le_antisymm footer.short (by omega)) complete
    · intro same
      exact absurd (same ▸ length_footerOf zlib output) complete

/-! ### The end -/

/-- Without input before the end of the data, `inflate` has nothing to do. -/
theorem uncompressChunkOrAll_starved (inflates : Inflates zlib format at_)
    {object : ZLib Inflater Deflater} {state : State} {output : List UInt8}
    (body : InBody zlib at_ object state output) :
    ∃ result, object.uncompressChunkOrAll zlib false 0 [] .finish = some result ∧
      result.code ≠ .ok := by
  have ready := body.withBuffers 0 0
  obtain ⟨stream, live, reads⟩ := ready.stream
  obtain ⟨next, call⟩ := inflates.starved stream state 0 .finish reads
  have zero : 0 < 2 ^ 32 := by decide
  have none : ([] : List UInt8).length < 2 ^ 32 := zero
  obtain ⟨result, called, failed⟩ : ∃ result,
      object.uncompressAtMostOrAll zlib false 0 [] .finish = some result ∧ result.code ≠ .ok := by
    rw [uncompressAtMostOrAll, body.notFirst, if_neg Bool.false_ne_true, body.footerBytes,
      if_neg (by decide), uncompressSource_later body.inflating none zero, List.length_nil,
      inflateSource_eq ready.mode.dictionary live rfl call]
    exact concludeInflate_of_error (counter_delta ready.totalIn (Nat.two_pow_pos 64))
      (Nat.le_refl 0) (by simp) (by simp)
  refine ⟨_, by rw [uncompressChunkOrAll, called, Option.map_some], ?_⟩
  split
  · exact failed
  · exact failed

/-- A lost stream reaches no end. -/
theorem uncompressChunkDone_of_loss {object : ZLib Inflater Deflater} (loss : InLoss zlib object)
    (final : ZLib Inflater Deflater) :
    object.uncompressChunkDone zlib false ≠ some (true, final) := by
  intro done
  rw [uncompressChunkDone, loss.notFirst, loss.init, if_neg (by simp),
    Option.map_eq_some_iff] at done
  obtain ⟨result, called, verdict⟩ := done
  by_cases ok : result.code = .ok
  · have called' := (uncompressChunkOrAll_eq_of_ok ok).mp called
    have none : ([] : List UInt8).length < 2 ^ 32 := Nat.two_pow_pos 32
    exact (uncompressAtMostOrAll_of_loss loss none (Nat.two_pow_pos 32) called' ok).2 ⟨rfl, rfl⟩
  · rw [if_pos ok] at verdict
    cases verdict

/-- Without input the footer stays as it is. -/
theorem uncompressChunkOrAll_footer (format : Decoder UInt8 UInt8 State)
    (at_ : Inflater → State → Prop) {object : ZLib Inflater Deflater} {output kept : List UInt8}
    (footer : InFooter zlib object output kept) :
    ∃ result, object.uncompressChunkOrAll zlib false 0 [] .finish = some result ∧
      result.code = .ok ∧ InFooter zlib result.object output kept := by
  have answers : Answers zlib at_ output (object.uncompressChunkOrAll zlib false 0 [] .finish)
      ((Phase.footer output kept).read format []) := by
    refine uncompressChunkOrAll_answers ?_
    rw [uncompressAtMostOrAll, footer.notFirst, if_neg Bool.false_ne_true, footer.footerBytes,
      if_pos (by omega)]
    exact readFooter_answers footer (Nat.two_pow_pos 32)
  rw [Phase.read, List.length_nil, Nat.add_zero, if_pos footer.short, List.append_nil] at answers
  rcases answers with ⟨⟨_, impossible⟩, -⟩ | ⟨result, call, went, represents, -⟩
  · cases impossible
  · exact ⟨result, call, went, represents⟩

/-- `UncompressChunkDone` accepts exactly behind a complete and correct footer. -/
theorem uncompressChunkDone_iff (inflates : Inflates zlib format at_)
    {object : ZLib Inflater Deflater} {phase : Phase State}
    (represents : Represents zlib at_ object phase) :
    (∃ final, object.uncompressChunkDone zlib false = some (true, final)) ↔
      ∃ output, phase = .footer output (footerOf zlib output) := by
  cases phase with
  | header parser =>
    have header : InHeader object parser := represents
    rw [uncompressChunkDone, if_pos (Or.inl header.first)]
    simp
  | body state output =>
    have body : InBody zlib at_ object state output := represents
    obtain ⟨result, call, failed⟩ := uncompressChunkOrAll_starved inflates body
    rw [uncompressChunkDone, body.notFirst, body.init, if_neg (by simp), call, Option.map_some,
      if_pos failed]
    simp
  | footer output kept =>
    have footer : InFooter zlib object output kept := represents
    obtain ⟨result, call, went, still⟩ := uncompressChunkOrAll_footer format at_ footer
    have valid := isGzipFooterValid_iff still
    rw [uncompressChunkDone, footer.notFirst, footer.init, if_neg (by simp), call, Option.map_some,
      if_neg (not_not_intro went), if_neg Bool.false_ne_true]
    have bytes : result.object.reset.gzipFooterBytes = kept.length := still.footerBytes
    have gzip : result.object.reset.settings.gzipHeaderMode = true := still.mode.gzip
    simp only [bytes, gzip, if_true]
    by_cases partly : (kept.length : Int) ≠ -1 ∧ (kept.length : Int) ≠ 0 ∧ (kept.length : Int) ≠ 8
    · rw [if_pos partly]
      refine ⟨by simp, ?_⟩
      rintro ⟨_, same⟩
      obtain ⟨rfl, rfl⟩ := Phase.footer.inj same
      exact absurd (congrArg Int.ofNat (length_footerOf zlib output)) partly.2.2
    · rw [if_neg partly]
      constructor
      · rintro ⟨final, accepted⟩
        exact ⟨output, by rw [valid.mp (congrArg Prod.fst (Option.some.inj accepted))]⟩
      · rintro ⟨_, same⟩
        obtain ⟨rfl, rfl⟩ := Phase.footer.inj same
        exact ⟨_, congrArg (fun verdict => some (verdict, _)) (valid.mpr rfl)⟩
  | refused output =>
    have loss : InLoss zlib object := represents
    exact iff_of_false (fun ⟨final, done⟩ => uncompressChunkDone_of_loss loss final done) nofun

/-! ### A run over all chunks -/

/-- Calls of `UncompressChunk`, one after the other; the code and the output of each. -/
def uncompressChunks (zlib : Zlib Inflater Deflater) (flexibleWithGzipFooter : Bool) :
    ZLib Inflater Deflater → List Call → Option (List (ZCode × List UInt8) × ZLib Inflater Deflater)
  | object, [] => some ([], object)
  | object, call :: calls =>
    (object.uncompressChunk zlib flexibleWithGzipFooter call.destLen call.chunk).bind fun result =>
      (uncompressChunks zlib flexibleWithGzipFooter result.object calls).map fun rest =>
        ((result.code, result.output) :: rest.1, rest.2)

/-- All calls return `Z_OK`, `UncompressChunkDone` then returns true, and this is what the calls put
out together. -/
def Accepts (zlib : Zlib Inflater Deflater) (object : ZLib Inflater Deflater) (calls : List Call)
    (output : List UInt8) : Prop :=
  ∃ results last final, uncompressChunks zlib false object calls = some (results, last) ∧
    (∀ result ∈ results, result.1 = .ok) ∧ (results.map Prod.snd).flatten = output ∧
    last.uncompressChunkDone zlib false = some (true, final)

/-- Each call fits the phase that the bytes before it lead to. -/
def AllFit (format : Decoder UInt8 UInt8 State) : Phase State → List Call → Prop
  | _, [] => True
  | phase, call :: calls =>
    Fits format phase call ∧ AllFit format (phase.read format call.chunk) calls

/-- The bytes that are cut into the chunks. -/
def bytesOf (calls : List Call) : List UInt8 :=
  calls.flatMap Call.chunk

theorem read_nil {object : ZLib Inflater Deflater} {phase : Phase State}
    (represents : Represents zlib at_ object phase) : phase.read format [] = phase := by
  cases phase with
  | header parser => rfl
  | body state output =>
    rw [Phase.read, Phase.readBody, Decoder.feed]
    simp only [List.append_nil]
  | footer output kept =>
    have footer : InFooter zlib object output kept := represents
    rw [Phase.read, List.length_nil, Nat.add_zero, if_pos footer.short, List.append_nil]
  | refused output => rfl

theorem accepts_nil {object : ZLib Inflater Deflater} {output : List UInt8} :
    Accepts zlib object [] output ↔
      output = [] ∧ ∃ final, object.uncompressChunkDone zlib false = some (true, final) := by
  constructor
  · rintro ⟨results, last, final, run, -, flat, done⟩
    cases run
    exact ⟨flat.symm, final, done⟩
  · rintro ⟨rfl, final, done⟩
    exact ⟨[], object, final, rfl, by simp, rfl, done⟩

theorem accepts_cons {object : ZLib Inflater Deflater} {call : Call} {calls : List Call}
    {output : List UInt8} {result : Uncompressed Inflater Deflater}
    (called : object.uncompressChunk zlib false call.destLen call.chunk = some result) :
    Accepts zlib object (call :: calls) output ↔
      result.code = .ok ∧ ∃ rest, output = result.output ++ rest ∧
        Accepts zlib result.object calls rest := by
  constructor
  · rintro ⟨results, last, final, run, ok, flat, done⟩
    rw [uncompressChunks, called, Option.bind_some, Option.map_eq_some_iff] at run
    obtain ⟨⟨later, last'⟩, run, same⟩ := run
    cases same
    refine ⟨ok _ List.mem_cons_self, (later.map Prod.snd).flatten, flat.symm, later, last', final,
      run, fun other member => ok other (List.mem_cons_of_mem _ member), rfl, done⟩
  · rintro ⟨ok, rest, rfl, results, last, final, run, others, rfl, done⟩
    refine ⟨(result.code, result.output) :: results, last, final, ?_, ?_, rfl, done⟩
    · rw [uncompressChunks, called, Option.bind_some, run]
      rfl
    · intro other member
      rcases List.mem_cons.mp member with rfl | later
      · exact ok
      · exact others other later

theorem Accepts.exists_call {object : ZLib Inflater Deflater} {call : Call} {calls : List Call}
    {output : List UInt8} (accepts : Accepts zlib object (call :: calls) output) :
    ∃ result, object.uncompressChunk zlib false call.destLen call.chunk = some result := by
  obtain ⟨results, last, final, run, -⟩ := accepts
  rw [uncompressChunks, Option.bind_eq_some_iff] at run
  obtain ⟨result, called, -⟩ := run
  exact ⟨result, called⟩

theorem accepts_iff_phase (inflates : Inflates zlib format at_) {object : ZLib Inflater Deflater}
    {phase : Phase State} (represents : Represents zlib at_ object phase) {calls : List Call}
    (fit : AllFit format phase calls) (output : List UInt8) :
    Accepts zlib object calls output ↔
      phase.read format (bytesOf calls) =
        .footer (phase.output ++ output) (footerOf zlib (phase.output ++ output)) := by
  induction calls generalizing object phase output with
  | nil =>
    rw [accepts_nil, uncompressChunkDone_iff inflates represents]
    show _ ↔ phase.read format [] = _
    rw [read_nil represents]
    constructor
    · rintro ⟨rfl, said, rfl⟩
      rw [Phase.output, List.append_nil]
    · intro arrived
      have none : output = [] := by
        have outputs := congrArg Phase.output arrived
        exact List.append_right_eq_self.mp outputs.symm
      subst none
      rw [List.append_nil] at arrived
      exact ⟨rfl, _, arrived⟩
  | cons call calls inductionHypothesis =>
    obtain ⟨fits, fit⟩ := fit
    have split : phase.read format (bytesOf (call :: calls)) =
        (phase.read format call.chunk).read format (bytesOf calls) := by
      rw [bytesOf, List.flatMap_cons, Phase.read_append]
      rfl
    rw [split]
    rcases uncompressChunk_answers inflates represents fits with
      ⟨⟨said, refused⟩, lost⟩ | ⟨result, called, went, represents, outputs⟩
    · rw [refused] at fit ⊢
      refine iff_of_false (fun accepts => ?_) fun arrived => ?_
      · obtain ⟨result, called⟩ := accepts.exists_call
        obtain ⟨ok, rest, -, accepts⟩ := (accepts_cons called).mp accepts
        have arrived := (@inductionHypothesis _ (.refused said) (lost result called ok) fit
          rest).mp accepts
        cases arrived
      · cases arrived
    · rw [accepts_cons called]
      constructor
      · rintro ⟨-, rest, rfl, accepted⟩
        have arrived := (inductionHypothesis represents fit rest).mp accepted
        rwa [outputs, List.append_assoc] at arrived
      · intro arrived
        obtain ⟨rest, more⟩ := (phase.read format call.chunk).exists_output_read format
          (bytesOf calls)
        have whole : output = result.output ++ rest := by
          rw [arrived, outputs, List.append_assoc] at more
          exact List.append_cancel_left more
        refine ⟨went, rest, whole, (inductionHypothesis represents fit rest).mpr ?_⟩
        rw [arrived, outputs, whole, List.append_assoc]

/-! ### A new object -/

/-- A new object after `SetGzipHeaderMode`. -/
def newGzip (zlib : Zlib Inflater Deflater) : ZLib Inflater Deflater :=
  { new zlib with
    settings.noHeaderMode := true
    settings.gzipHeaderMode := true }

example (zlib : Zlib Inflater Deflater) : (new zlib).setGzipHeaderMode = some (newGzip zlib) := rfl

theorem inHeader_newGzip (zlib : Zlib Inflater Deflater) : InHeader (newGzip zlib) .fresh where
  mode := ⟨rfl, rfl, rfl, rfl, rfl⟩
  first := rfl
  parsed := rfl
  pending := GZipHeader.pending_fresh
  stream init := by cases init

/-! ### What is accepted -/

/-- In gzip mode, from an object that has not read anything yet: the calls accept a byte string
exactly if it is a member, and their output is then what the member decodes to. -/
theorem accepts_iff_isMember (inflates : Inflates zlib format at_)
    {object : ZLib Inflater Deflater} (ready : InHeader object .fresh) {calls : List Call}
    (fit : AllFit format .start calls) (output : List UInt8) :
    Accepts zlib object calls output ↔ IsMember zlib format (bytesOf calls) output := by
  have represents : Represents zlib at_ object (.start : Phase State) := ready
  rw [accepts_iff_phase inflates represents fit, Phase.isMember_iff]
  rfl

/-- The member of one stored block that says `a`, cut inside its header, its data and its
footer. -/
def cutMember : List Call :=
  [⟨[0x1f, 0x8b, 8], 0⟩, ⟨[0, 0, 0, 0, 0, 0, 3, 1, 1], 1⟩,
    ⟨[0, 0xfe, 0xff, 0x61, 0x43, 0xbe], 1⟩, ⟨[0xb7, 0xe8, 1, 0, 0, 0], 0⟩]

theorem allFit_cutMember : AllFit storedFormat .start cutMember := by
  refine ⟨⟨?_, ?_, ?_, ?_, ?_⟩, ⟨?_, ?_, ?_, ?_, ?_⟩, ⟨?_, ?_, ?_, ?_, ?_⟩, ⟨?_, ?_, ?_, ?_, ?_⟩,
    trivial⟩
  all_goals first | decide +kernel | exact fun _ _ => by decide

theorem accepts_plainHeader : GZipHeader.Accepts [0x1f, 0x8b, 8, 0, 0, 0, 0, 0, 0, 3] := by
  show (GZipHeader.fresh.readLoop _).2 = _
  decide +kernel

theorem accepts_cutMember :
    Accepts (zlibOf storedFormat) (newGzip (zlibOf storedFormat)) cutMember [0x61] := by
  have decodes : storedFormat.Decodes (storedBlock true [0x61]) [0x61] :=
    decodes_storedBlocks (List.forall_mem_nil _) (by decide)
  have member : IsMember (zlibOf storedFormat) storedFormat (bytesOf cutMember) [0x61] :=
    ⟨_, _, _, by decide +kernel, accepts_plainHeader, decodes, rfl⟩
  exact (accepts_iff_isMember (inflates_zlibOf storedFormat) (inHeader_newGzip _)
    allFit_cutMember [0x61]).mpr member

/-! ### Chunks that are too long -/

/-- A chunk of data whose length does not fit in an unsigned int is refused, whatever it says. -/
theorem uncompressChunk_of_long {object : ZLib Inflater Deflater} {state : State}
    {output source : List UInt8} (body : InBody zlib at_ object state output)
    (long : 2 ^ 32 ≤ source.length) (destLen : Nat) :
    ∃ result, object.uncompressChunk zlib false destLen source = some result ∧
      result.code = .bufError := by
  have narrowed : source.length % 2 ^ 32 ≠ source.length := by omega
  rw [uncompressChunk, uncompressChunkOrAll, uncompressAtMostOrAll, body.notFirst,
    if_neg Bool.false_ne_true, body.footerBytes, if_neg (by decide), uncompressSource,
    uncompressInit]
  simp only [narrowed, ne_eq, not_false_eq_true, if_true, reduceCtorEq, Option.map_some]
  exact ⟨_, rfl, rfl⟩

/-- A member is not accepted with so much of its data in one chunk. -/
theorem not_accepts_longData (inflates : Inflates zlib format at_) {object : ZLib Inflater Deflater}
    (ready : InHeader object .fresh) {header data : List UInt8}
    (accepted : GZipHeader.Accepts header) (present : header ≠ [])
    (short : header.length < 2 ^ 31) (long : 2 ^ 32 ≤ data.length) {room : Nat}
    (output : List UInt8) : ¬ Accepts zlib object [⟨header, 0⟩, ⟨data, room⟩] output := by
  have represents : Represents zlib at_ object (.start : Phase State) := ready
  have headed : Phase.start.read format header = .body format.start [] := by
    have read := Phase.read_start_append format accepted []
    rwa [List.append_nil] at read
  have fits : Fits format .start ⟨header, 0⟩ :=
    ⟨present, Nat.lt_trans short (by decide), fun _ _ => short, Nat.two_pow_pos 32, by
      rw [headed]
      exact Nat.le_refl 0⟩
  have answers := uncompressChunk_answers inflates represents fits
  rw [headed] at answers
  intro accepts
  rcases answers with ⟨⟨_, impossible⟩, -⟩ | ⟨result, called, -, body, -⟩
  · cases impossible
  · obtain ⟨-, rest, -, accepts⟩ := (accepts_cons called).mp accepts
    obtain ⟨refused, called, code⟩ := uncompressChunk_of_long body long room
    have called : result.object.uncompressChunk zlib false (Call.mk data room).destLen
        (Call.mk data room).chunk = some refused := called
    have ok := ((accepts_cons called).mp accepts).1
    rw [code] at ok
    cases ok

/-- The data and the footer of a member with a given number of empty blocks and a last one. -/
def emptyData (count : Nat) : List UInt8 :=
  (List.replicate count []).flatMap (storedBlock false) ++ storedBlock true [] ++
    footerOf (zlibOf storedFormat) []

def emptyBlocks (count : Nat) : List Call :=
  [⟨[0x1f, 0x8b, 8, 0, 0, 0, 0, 0, 0, 3], 0⟩, ⟨emptyData count, 0⟩]

theorem isMember_emptyBlocks (count : Nat) :
    IsMember (zlibOf storedFormat) storedFormat (bytesOf (emptyBlocks count)) [] := by
  have decodes : storedFormat.Decodes _ ((List.replicate count []).flatten ++ []) :=
    decodes_storedBlocks (fun block member => by rw [List.eq_of_mem_replicate member]; decide)
      (show ([] : List UInt8).length < 65536 by decide)
  rw [List.flatten_replicate_nil, List.append_nil] at decodes
  refine ⟨_, _, _, ?_, accepts_plainHeader, decodes, rfl⟩
  rw [emptyBlocks, bytesOf, List.flatMap_cons, List.flatMap_cons, List.flatMap_nil,
    List.append_nil, List.append_assoc [0x1f, 0x8b, 8, 0, 0, 0, 0, 0, 0, 3]]
  rfl

theorem le_length_emptyData (count : Nat) : 5 * count ≤ (emptyData count).length := by
  rw [emptyData, List.append_assoc, List.length_append]
  refine Nat.le_trans (Nat.le_of_eq ?_) (Nat.le_add_right _ _)
  induction count with
  | zero => rfl
  | succ count inductionHypothesis =>
    rw [List.replicate_succ, List.flatMap_cons, List.length_append, ← inductionHypothesis,
      Nat.mul_succ, Nat.add_comm]
    rfl

theorem not_accepts_emptyBlocks {count : Nat} (many : 2 ^ 32 ≤ 5 * count) (output : List UInt8) :
    ¬ Accepts (zlibOf storedFormat) (newGzip (zlibOf storedFormat)) (emptyBlocks count) output :=
  not_accepts_longData (inflates_zlibOf storedFormat) (inHeader_newGzip _) accepts_plainHeader
    (List.cons_ne_nil _ _) (show _ < 2 ^ 31 by decide)
    (Nat.le_trans many (le_length_emptyData count)) output

theorem present_emptyBlocks (count : Nat) : ∀ call ∈ emptyBlocks count, call.chunk ≠ [] := by
  intro call member
  rcases List.mem_cons.mp member with rfl | member
  · exact List.cons_ne_nil _ _
  · rw [List.mem_singleton.mp member]
    intro none
    have long : (emptyData count).length = 0 := List.length_eq_zero_iff.mpr none
    rw [emptyData, List.length_append, List.length_append] at long
    have positive : 0 < (storedBlock true []).length := by decide
    omega

/-- A member that decodes to nothing, so that any room is enough, and is not accepted in chunks
one of which is longer than an unsigned int can say. -/
theorem not_accepts_longChunk :
    IsMember (zlibOf storedFormat) storedFormat (bytesOf (emptyBlocks 4294967296)) [] ∧
      (∀ call ∈ emptyBlocks 4294967296, call.chunk ≠ []) ∧
      ∀ output, ¬ Accepts (zlibOf storedFormat) (newGzip (zlibOf storedFormat))
        (emptyBlocks 4294967296) output :=
  ⟨isMember_emptyBlocks _, present_emptyBlocks _, not_accepts_emptyBlocks (by decide)⟩

end Fleetbench.Compression.ZLib
