/-
This file relates the parser of gzip headers to the layout of RFC 1952: ten
bytes, then the fields that the flags announce. A parser that is fed a byte
string in any installments completes the header that the string begins with.
-/

import Fleetbench.Compression.HeaderChunks
import Fleetbench.Library.Language

namespace Fleetbench.Compression.GZipHeader

open Library

/-! ### The layout -/

/-- A field that is there exactly if its flag is set. -/
def Field (flag flg : UInt8) (content : List UInt8 → Prop) (bytes : List UInt8) : Prop :=
  if flg &&& flag = 0 then bytes = [] else content bytes

/-- A two-byte little-endian length and that many bytes. -/
def Counted (bytes : List UInt8) : Prop :=
  ∃ low rest, bytes = low :: rest ∧ ∃ high data, rest = high :: data ∧
    data.length = low.toNat + 256 * high.toNat

/-- A string without zero bytes and the zero byte that ends it. -/
def ZeroTerminated (bytes : List UInt8) : Prop :=
  ∃ text, bytes = text ++ [0] ∧ (0 : UInt8) ∉ text

/-- What follows the flag byte: six bytes, the extra field, the name, the comment and the
checksum of the header. -/
def Fields (flg : UInt8) : List UInt8 → Prop :=
  Followed (fun bytes => bytes.length = 6)
    (Followed (Field flagFextra flg Counted)
      (Followed (Field flagFname flg ZeroTerminated)
        (Followed (Field flagFcomment flg ZeroTerminated)
          (Field flagFhcrc flg fun bytes => bytes.length = 2))))

/-- A gzip header. The other bits of the flag byte do not matter. -/
def Layout (header : List UInt8) : Prop :=
  ∃ flg fields, header = 0x1f :: 0x8b :: 8 :: flg :: fields ∧ Fields flg fields

/-- One of the first three bytes is present and wrong. -/
def WrongStart (bytes : List UInt8) : Prop :=
  ∃ (index : Nat) (byte expected : UInt8), bytes[index]? = some byte ∧
    ([0x1f, 0x8b, 8] : List UInt8)[index]? = some expected ∧ byte ≠ expected

/-! ### Every byte string is one of three kinds -/

theorem covers_field (flag flg : UInt8) {content : List UInt8 → Prop} (covers : Covers content) :
    Covers (Field flag flg content) := by
  unfold Field
  by_cases absent : flg &&& flag = 0
  · simp only [if_pos absent]
    exact covers_nil
  · simp only [if_neg absent]
    exact covers

theorem covers_counted : Covers Counted :=
  covers_cons fun low => covers_cons fun high => covers_length (low.toNat + 256 * high.toNat)

theorem covers_fields (flg : UInt8) : Covers (Fields flg) :=
  (covers_length 6).followed <| (covers_field flagFextra flg covers_counted).followed <|
    (covers_field flagFname flg (covers_terminated 0)).followed <|
      (covers_field flagFcomment flg (covers_terminated 0)).followed <|
        covers_field flagFhcrc flg (covers_length 2)

theorem covers_layout (bytes : List UInt8) (right : ¬ WrongStart bytes) :
    Begins Layout bytes ∨ Continues Layout bytes := by
  have covers : Covers fun rest : List UInt8 => ∃ flg fields, rest = flg :: fields ∧
      Fields flg fields := covers_cons covers_fields
  obtain ⟨word, flg, fields, rfl, member⟩ := covers.inhabited
  have same (index : Nat) (byte expected : UInt8) (present : bytes[index]? = some byte)
      (wanted : ([0x1f, 0x8b, 8] : List UInt8)[index]? = some expected) : byte = expected :=
    Decidable.not_not.mp fun differ => right ⟨index, byte, expected, present, wanted, differ⟩
  match bytes, same with
  | [], _ => exact Or.inr ⟨0x1f :: 0x8b :: 8 :: flg :: fields, List.cons_ne_nil _ _, flg, fields,
      rfl, member⟩
  | [first], same =>
    obtain rfl := same 0 first 0x1f rfl rfl
    exact Or.inr ⟨0x8b :: 8 :: flg :: fields, List.cons_ne_nil _ _, flg, fields, rfl, member⟩
  | [first, second], same =>
    obtain rfl := same 0 first 0x1f rfl rfl
    obtain rfl := same 1 second 0x8b rfl rfl
    exact Or.inr ⟨8 :: flg :: fields, List.cons_ne_nil _ _, flg, fields, rfl, member⟩
  | first :: second :: third :: bytes, same =>
    obtain rfl := same 0 first 0x1f rfl rfl
    obtain rfl := same 1 second 0x8b rfl rfl
    obtain rfl := same 2 third 8 rfl rfl
    rcases covers bytes with ⟨_, rest, rfl, flg, fields, rfl, begins⟩ | ⟨more, present, continued⟩
    · exact Or.inl ⟨0x1f :: 0x8b :: 8 :: flg :: fields, rest, rfl, flg, fields, rfl, begins⟩
    · obtain ⟨flg, fields, split, continued⟩ := continued
      exact Or.inr ⟨more, present, flg, fields, by rw [← split]; rfl, continued⟩

/-! ### The loop reads the fields -/

theorem and_not_of_absent {flags flag : UInt8} (absent : flags &&& flag = 0) :
    flags &&& ~~~flag = flags := by
  have whole := and_settled_or flags flag (~~~flag)
  rw [absent, UInt8.zero_or, UInt8.or_not_self, UInt8.and_neg_one] at whole
  exact whole.symm

theorem toNat_counted (low high : UInt8) :
    (low.toUInt16 + (high.toUInt16 <<< 8)).toNat = low.toNat + 256 * high.toNat := by
  have lowFits := low.toNat_lt
  have highFits := high.toNat_lt
  have eight : (8 : UInt16).toNat % 16 = 8 := by decide
  rw [UInt16.toNat_add, UInt16.toNat_shiftLeft, eight, UInt8.toNat_toUInt16, UInt8.toNat_toUInt16,
    Nat.shiftLeft_eq]
  omega

theorem status_of_again {header after : GZipHeader} {byte : UInt8} {rest left : List UInt8}
    (run : header.iterate byte rest = .again after left) :
    (header.readLoop (byte :: rest)).2 = (after.readLoop left).2 := by
  rw [readLoop_again run]

/-- Behind the fixed part only the flags say whether something is left to read. -/
theorem status_nil {first second : State} (behind : State.inHeaderOs.value < first.value)
    (behind' : State.inHeaderOs.value < second.value) (flags : UInt8)
    (extraLength : UInt16) :
    ((⟨first, flags, extraLength⟩ : GZipHeader).readLoop []).2 =
      ((⟨second, flags, extraLength⟩ : GZipHeader).readLoop []).2 := by
  by_cases finished : flags = 0
  · rw [readLoop_nil_of_finished ⟨behind, finished⟩, readLoop_nil_of_finished ⟨behind', finished⟩]
  · rw [readLoop_nil_of_not_finished fun done => finished done.2,
      readLoop_nil_of_not_finished fun done => finished done.2]

/-- A field without its flag is skipped. -/
theorem status_skip (first second : State) (flags : UInt8) (extraLength : UInt16)
    (behind : State.inHeaderOs.value < first.value)
    (behind' : State.inHeaderOs.value < second.value)
    (skips : ∀ byte rest, iterate ⟨first, flags, extraLength⟩ byte rest =
      .again ⟨second, flags, extraLength⟩ (byte :: rest)) (rest : List UInt8) :
    ((⟨first, flags, extraLength⟩ : GZipHeader).readLoop rest).2 =
      ((⟨second, flags, extraLength⟩ : GZipHeader).readLoop rest).2 := by
  cases rest with
  | nil => exact status_nil behind behind' flags extraLength
  | cons byte rest => exact status_of_again (skips byte rest)

theorem status_extra {flg flags : UInt8} {extra : List UInt8}
    (field : Field flagFextra flg Counted extra) (same : flags &&& flagFextra = flg &&& flagFextra)
    (extraLength : UInt16) (rest : List UInt8) :
    ∃ left, ((⟨.inXlenByte0, flags, extraLength⟩ : GZipHeader).readLoop (extra ++ rest)).2 =
      ((⟨.inFname, flags &&& ~~~flagFextra, left⟩ : GZipHeader).readLoop rest).2 := by
  rw [Field, ← same] at field
  by_cases absent : flags &&& flagFextra = 0
  · rw [if_pos absent] at field
    subst field
    rw [and_not_of_absent absent, List.nil_append]
    refine ⟨extraLength, status_skip .inXlenByte0 .inFname flags extraLength (by decide)
      (by decide) (fun _ _ => if_pos absent) rest⟩
  · rw [if_neg absent] at field
    obtain ⟨low, _, rfl, high, data, rfl, length⟩ := field
    have first : iterate ⟨.inXlenByte0, flags, extraLength⟩ low (high :: (data ++ rest)) =
        .again ⟨.inXlenByte1, flags, low.toUInt16⟩ (high :: (data ++ rest)) := if_neg absent
    have counted : (low.toUInt16 + (high.toUInt16 <<< 8)).toNat = data.length :=
      (toNat_counted low high).trans length.symm
    have second : iterate ⟨.inXlenByte1, flags, low.toUInt16⟩ high (data ++ rest) =
        .again ⟨.inFname, flags &&& ~~~flagFextra, 0⟩ rest := by
      have enough : (low.toUInt16 + (high.toUInt16 <<< 8)).toNat ≤ (data ++ rest).length := by
        rw [counted, List.length_append]
        exact Nat.le_add_right _ _
      show readExtra ⟨.inFextra, flags, low.toUInt16 + (high.toUInt16 <<< 8)⟩ (data ++ rest) = _
      rw [readExtra_of_le enough, counted, List.drop_left]
    exact ⟨0, (status_of_again first).trans (status_of_again second)⟩

/-- `IN_FNAME` and `IN_FCOMMENT`. -/
theorem status_string (here behind : State) (flag : UInt8)
    (reads : ∀ flags extraLength byte rest, iterate ⟨here, flags, extraLength⟩ byte rest =
      readString flag behind ⟨here, flags, extraLength⟩ (byte :: rest))
    (started : State.inHeaderOs.value < here.value)
    (started' : State.inHeaderOs.value < behind.value) {flg flags : UInt8} {string : List UInt8}
    (field : Field flag flg ZeroTerminated string) (same : flags &&& flag = flg &&& flag)
    (extraLength : UInt16) (rest : List UInt8) :
    ((⟨here, flags, extraLength⟩ : GZipHeader).readLoop (string ++ rest)).2 =
      ((⟨behind, flags &&& ~~~flag, extraLength⟩ : GZipHeader).readLoop rest).2 := by
  rw [Field, ← same] at field
  by_cases absent : flags &&& flag = 0
  · rw [if_pos absent] at field
    subst field
    rw [and_not_of_absent absent, List.nil_append]
    refine status_skip here behind flags extraLength started started' (fun byte rest => ?_) rest
    rw [reads, readString]
    exact if_pos absent
  · rw [if_neg absent] at field
    obtain ⟨text, rfl, clean⟩ := field
    have ends : ((text ++ [0]) ++ rest).dropWhile (· ≠ 0) = 0 :: rest := by
      have passed : ∀ byte ∈ text, decide (byte ≠ 0) = true := fun byte member =>
        decide_eq_true fun zero => clean (zero ▸ member)
      rw [List.append_assoc, List.dropWhile_append_of_pos passed]
      rfl
    have read : readString flag behind ⟨here, flags, extraLength⟩ ((text ++ [0]) ++ rest) =
        .again ⟨behind, flags &&& ~~~flag, extraLength⟩ rest := by
      rw [readString, ends]
      exact if_neg absent
    obtain ⟨byte, others, split⟩ := List.exists_cons_of_ne_nil
      (List.append_ne_nil_of_left_ne_nil (List.append_ne_nil_of_right_ne_nil text
        (List.cons_ne_nil (0 : UInt8) [])) rest)
    rw [split] at read ⊢
    exact status_of_again ((reads flags extraLength byte others).trans read)

theorem status_checksum {flg flags : UInt8} {checksum : List UInt8}
    (field : Field flagFhcrc flg (fun bytes => bytes.length = 2) checksum)
    (same : flags &&& flagFhcrc = flg &&& flagFhcrc) (extraLength : UInt16) (rest : List UInt8) :
    ((⟨.inFhcrcByte0, flags, extraLength⟩ : GZipHeader).readLoop (checksum ++ rest)).2 =
      ((⟨.inDone, flags &&& ~~~flagFhcrc, extraLength⟩ : GZipHeader).readLoop rest).2 := by
  rw [Field, ← same] at field
  by_cases absent : flags &&& flagFhcrc = 0
  · rw [if_pos absent] at field
    subst field
    rw [and_not_of_absent absent, List.nil_append]
    exact status_skip .inFhcrcByte0 .inDone flags extraLength (by decide) (by decide)
      (fun _ _ => if_pos absent) rest
  · rw [if_neg absent] at field
    obtain ⟨low, high, rfl⟩ := List.length_eq_two.mp field
    have first : iterate ⟨.inFhcrcByte0, flags, extraLength⟩ low (high :: rest) =
        .again ⟨.inFhcrcByte1, flags, extraLength⟩ (high :: rest) := if_neg absent
    exact (status_of_again first).trans (status_of_again rfl)

/-- The flags of the fields behind an earlier one are still the ones of the flag byte. -/
theorem and_cleared {flags flg flag cleared : UInt8} (same : flags &&& flag = flg &&& flag)
    (distinct : ~~~cleared &&& flag = flag) : (flags &&& ~~~cleared) &&& flag = flg &&& flag := by
  rw [UInt8.and_assoc, distinct, same]

theorem and_known {flag : UInt8} (flg : UInt8) (known : knownFlags &&& flag = flag) :
    (flg &&& knownFlags) &&& flag = flg &&& flag := by
  rw [UInt8.and_assoc, known]

theorem all_cleared (flg : UInt8) :
    (flg &&& knownFlags) &&& ~~~flagFextra &&& ~~~flagFname &&& ~~~flagFcomment &&&
      ~~~flagFhcrc = 0 := by
  have none : knownFlags &&& (~~~flagFextra &&& (~~~flagFname &&& (~~~flagFcomment &&&
      ~~~flagFhcrc))) = 0 := by decide
  rw [UInt8.and_assoc, UInt8.and_assoc, UInt8.and_assoc, UInt8.and_assoc, none, UInt8.and_zero]

theorem status_done (extraLength : UInt16) (rest : List UInt8) :
    ((⟨.inDone, 0, extraLength⟩ : GZipHeader).readLoop rest).2 = .completeHeader rest := by
  cases rest with
  | nil => rw [readLoop_nil_of_finished ⟨by simp [State.value], rfl⟩]
  | cons byte rest => rw [readLoop_returned rfl]

theorem status_fixed (flg : UInt8) {fixed : List UInt8} (length : fixed.length = 6)
    (rest : List UInt8) :
    (fresh.readLoop (0x1f :: 0x8b :: 8 :: flg :: (fixed ++ rest))).2 =
      ((⟨.inXlenByte0, flg &&& knownFlags, 0⟩ : GZipHeader).readLoop rest).2 := by
  match fixed, length with
  | [time0, time1, time2, time3, xfl, os], _ =>
    simp only [List.cons_append, List.nil_append]
    iterate 10 rw [readLoop_again rfl]
    rfl

/-- A header is complete where its layout ends. -/
theorem status_layout {header : List UInt8} (layout : Layout header) (rest : List UInt8) :
    (fresh.readLoop (header ++ rest)).2 = .completeHeader rest := by
  obtain ⟨flg, _, rfl, fixed, _, rfl, length, extra, _, rfl, hasExtra, name, _, rfl, hasName,
    comment, checksum, rfl, hasComment, hasChecksum⟩ := layout
  have known (flag : UInt8) : knownFlags &&& flag = flag →
      (flg &&& knownFlags) &&& flag = flg &&& flag := and_known flg
  have extraFlag := known flagFextra (by decide)
  have nameFlag := and_cleared (known flagFname (by decide))
    (show ~~~flagFextra &&& flagFname = flagFname by decide)
  have commentFlag := and_cleared (and_cleared (known flagFcomment (by decide))
    (show ~~~flagFextra &&& flagFcomment = flagFcomment by decide))
    (show ~~~flagFname &&& flagFcomment = flagFcomment by decide)
  have checksumFlag := and_cleared (and_cleared (and_cleared (known flagFhcrc (by decide))
    (show ~~~flagFextra &&& flagFhcrc = flagFhcrc by decide))
    (show ~~~flagFname &&& flagFhcrc = flagFhcrc by decide))
    (show ~~~flagFcomment &&& flagFhcrc = flagFhcrc by decide)
  obtain ⟨extraLength, readExtra⟩ := status_extra hasExtra extraFlag 0
    (name ++ (comment ++ (checksum ++ rest)))
  have readName := status_string .inFname .inFcomment flagFname (fun _ _ _ _ => rfl) (by decide)
    (by decide) hasName nameFlag extraLength (comment ++ (checksum ++ rest))
  have readComment := status_string .inFcomment .inFhcrcByte0 flagFcomment (fun _ _ _ _ => rfl)
    (by decide) (by decide) hasComment commentFlag extraLength (checksum ++ rest)
  have readChecksum := status_checksum hasChecksum checksumFlag extraLength rest
  rw [all_cleared, status_done] at readChecksum
  have readFixed := status_fixed flg length (extra ++ (name ++ (comment ++ (checksum ++ rest))))
  simp only [List.cons_append, List.append_assoc]
  rw [readFixed, readExtra, readName, readComment, readChecksum]

theorem status_magic0 (rest : List UInt8) :
    (fresh.readLoop (magic0 :: rest)).2 = ((⟨.inHeaderId2, 0, 0⟩ : GZipHeader).readLoop rest).2 :=
  status_of_again rfl

theorem status_magic1 (rest : List UInt8) :
    ((⟨.inHeaderId2, 0, 0⟩ : GZipHeader).readLoop (magic1 :: rest)).2 =
      ((⟨.inHeaderCm, 0, 0⟩ : GZipHeader).readLoop rest).2 :=
  status_of_again rfl

/-- A wrong byte at the start is noticed. -/
theorem status_wrongStart {bytes : List UInt8} (wrong : WrongStart bytes) :
    (fresh.readLoop bytes).2 = .invalidHeader := by
  obtain ⟨index, byte, expected, present, wanted, differ⟩ := wrong
  have refused {header : GZipHeader} {byte : UInt8} {rest : List UInt8}
      (run : header.iterate byte rest = .returned .invalidHeader) :
      (header.readLoop (byte :: rest)).2 = .invalidHeader := by
    rw [readLoop_returned run]
  match index, bytes, present, wanted with
  | 0, first :: rest, rfl, rfl => exact refused (if_pos differ)
  | 1, first :: second :: rest, rfl, rfl =>
    by_cases right : first = magic0
    · subst right
      exact (status_magic0 _).trans (refused (if_pos differ))
    · exact refused (if_pos right)
  | 2, first :: second :: third :: rest, rfl, rfl =>
    by_cases right : first = magic0
    · subst right
      rw [status_magic0]
      by_cases right' : second = magic1
      · subst right'
        exact (status_magic1 _).trans (refused (if_pos differ))
      · exact refused (if_pos right')
    · exact refused (if_pos right)

/-! ### The decoder and the layout -/

theorem feed_eq_last_of_status {bytes beyond : List UInt8}
    (read : (fresh.readLoop bytes).2 = .completeHeader beyond) :
    decoder.feed fresh bytes = .last [] beyond := by
  rw [← outcome_readLoop pending_fresh]
  cases run : fresh.readLoop bytes with
  | mk after status =>
    rw [run] at read
    obtain rfl : status = .completeHeader beyond := read
    rfl

theorem feed_layout {header : List UInt8} (layout : Layout header) (rest : List UInt8) :
    decoder.feed fresh (header ++ rest) = .last [] rest :=
  feed_eq_last_of_status (status_layout layout rest)

theorem feed_wrongStart {bytes : List UInt8} (wrong : WrongStart bytes) :
    decoder.feed fresh bytes = .bad [] := by
  rw [← outcome_readLoop pending_fresh]
  have read := status_wrongStart wrong
  cases run : fresh.readLoop bytes with
  | mk after status =>
    rw [run] at read
    obtain rfl : status = .invalidHeader := read
    rfl

theorem feed_continues {bytes : List UInt8} (continues : Continues Layout bytes) :
    ∃ after output, decoder.feed fresh bytes = .more after output := by
  obtain ⟨more, present, layout⟩ := continues
  have whole := feed_layout layout []
  rw [List.append_nil, decoder.feed_append] at whole
  cases fed : decoder.feed fresh bytes with
  | more after output => exact ⟨after, output, rfl⟩
  | last output unread =>
    rw [fed, Decoder.resume, Fed.last.injEq] at whole
    exact absurd (List.append_eq_nil_iff.mp whole.2).2 present
  | bad output =>
    rw [fed] at whole
    cases whole

/-! ### Installments -/

/-- How a run of `ReadMore` over installments ends; a complete header ends some bytes into all of
them. -/
inductive Outcome where
  | incomplete
  | complete (headerEnd : Nat)
  | invalid
  deriving DecidableEq, Repr

/-- Calls of `ReadMore` with one installment after the other, of which the first begins behind
`before` bytes, until one of them returns something other than `INCOMPLETE_HEADER`. -/
def readChunks (header : GZipHeader) (before : Nat) : List (List UInt8) → Option Outcome
  | [] => some .incomplete
  | chunk :: chunks => do
    let (after, status) ← header.readMore chunk chunk.length
    match status with
    | .incompleteHeader => readChunks after (before + chunk.length) chunks
    | .completeHeader beyond => some (.complete (before + (chunk.length - beyond.length)))
    | .invalidHeader => some .invalid

/-- The outcome for all the bytes. -/
def verdict (total : Nat) : Fed UInt8 Empty GZipHeader → Outcome
  | .more _ _ => .incomplete
  | .last _ unread => .complete (total - unread.length)
  | .bad _ => .invalid

theorem verdict_after (total : Nat) (fed : Fed UInt8 Empty GZipHeader) (earlier : List Empty) :
    verdict total (fed.after earlier) = verdict total fed := by
  cases fed <;> rfl

/-- Installments are read like their concatenation. -/
theorem readChunks_eq {header : GZipHeader} (pending : header.Pending) (before : Nat)
    (chunks : List (List UInt8)) :
    header.readChunks before chunks =
      some (verdict (before + chunks.flatten.length) (decoder.feed header chunks.flatten)) := by
  induction chunks generalizing header before with
  | nil => rfl
  | cons chunk chunks inductionHypothesis =>
    have read := outcome_readLoop pending chunk
    have called : header.readMore chunk chunk.length = some (header.readLoop chunk) := by
      rw [readMore, if_neg (Int.not_lt.mpr (Int.natCast_nonneg _)), Int.toNat_natCast,
        List.take_length]
    rw [readChunks, called, List.flatten_cons, decoder.feed_append, ← read, List.length_append]
    cases run : header.readLoop chunk with
    | mk after status =>
      cases status with
      | incompleteHeader =>
        have continued := inductionHypothesis (pending_readLoop pending.sound run)
          (before + chunk.length)
        rw [Nat.add_assoc] at continued
        rw [outcome, Decoder.resume, verdict_after]
        exact continued
      | completeHeader beyond =>
        have behind := length_beyond_le pending.sound run
        show some (Outcome.complete _) = some (.complete _)
        rw [List.length_append]
        congr 2
        omega
      | invalidHeader => rfl

/-- The decoder is where the byte string is in the layout, and nowhere else. -/
theorem feed_cases (bytes : List UInt8) :
    (∃ header rest, bytes = header ++ rest ∧ Layout header ∧
        decoder.feed fresh bytes = .last [] rest) ∨
      (WrongStart bytes ∧ decoder.feed fresh bytes = .bad []) ∨
      (Continues Layout bytes ∧ ∃ after output, decoder.feed fresh bytes = .more after output) := by
  by_cases wrong : WrongStart bytes
  · exact Or.inr (Or.inl ⟨wrong, feed_wrongStart wrong⟩)
  · rcases covers_layout bytes wrong with ⟨header, rest, split, layout⟩ | continues
    · exact Or.inl ⟨header, rest, split, layout, by rw [split]; exact feed_layout layout rest⟩
    · exact Or.inr (Or.inr ⟨continues, feed_continues continues⟩)

theorem verdict_complete_iff (bytes : List UInt8) (headerEnd : Nat) :
    verdict bytes.length (decoder.feed fresh bytes) = .complete headerEnd ↔
      headerEnd ≤ bytes.length ∧ Layout (bytes.take headerEnd) := by
  constructor
  · intro found
    rcases feed_cases bytes with ⟨header, rest, rfl, layout, fed⟩ | ⟨-, fed⟩ | ⟨-, _, _, fed⟩
    · rw [fed, verdict, Outcome.complete.injEq, List.length_append, Nat.add_sub_cancel] at found
      subst found
      rw [List.length_append, List.take_left]
      exact ⟨Nat.le_add_right _ _, layout⟩
    · rw [fed] at found
      cases found
    · rw [fed] at found
      cases found
  · rintro ⟨present, layout⟩
    have fed := feed_layout layout (bytes.drop headerEnd)
    rw [List.take_append_drop] at fed
    rw [fed, verdict, List.length_drop, Nat.sub_sub_self present]

theorem verdict_invalid_iff (bytes : List UInt8) :
    verdict bytes.length (decoder.feed fresh bytes) = .invalid ↔ WrongStart bytes := by
  constructor
  · intro found
    rcases feed_cases bytes with ⟨_, _, _, _, fed⟩ | ⟨wrong, -⟩ | ⟨-, _, _, fed⟩
    · rw [fed] at found
      cases found
    · exact wrong
    · rw [fed] at found
      cases found
  · intro wrong
    rw [feed_wrongStart wrong, verdict]

theorem verdict_incomplete_iff (bytes : List UInt8) :
    verdict bytes.length (decoder.feed fresh bytes) = .incomplete ↔ Continues Layout bytes := by
  constructor
  · intro found
    rcases feed_cases bytes with ⟨_, _, _, _, fed⟩ | ⟨-, fed⟩ | ⟨continues, -⟩
    · rw [fed] at found
      cases found
    · rw [fed] at found
      cases found
    · exact continues
  · intro continues
    obtain ⟨_, _, fed⟩ := feed_continues continues
    rw [fed, verdict]

/-- What `ReadMore` makes of a byte string, whatever its installments. -/
theorem readChunks_layout (chunks : List (List UInt8)) :
    ∃ found, fresh.readChunks 0 chunks = some found ∧
      (∀ headerEnd, found = .complete headerEnd ↔
        headerEnd ≤ chunks.flatten.length ∧ Layout (chunks.flatten.take headerEnd)) ∧
      (found = .invalid ↔ WrongStart chunks.flatten) ∧
      (found = .incomplete ↔ ∃ more, more ≠ [] ∧ Layout (chunks.flatten ++ more)) ∧
      ∀ others : List (List UInt8), others.flatten = chunks.flatten →
        fresh.readChunks 0 others = some found := by
  have read (others : List (List UInt8)) :=
    (readChunks_eq pending_fresh 0 others).trans (by rw [Nat.zero_add])
  refine ⟨_, read chunks, verdict_complete_iff _, verdict_invalid_iff _,
    verdict_incomplete_iff _, fun others same => ?_⟩
  rw [read others, same]

end Fleetbench.Compression.GZipHeader
