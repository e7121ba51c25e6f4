/-
This file builds a zlib out of any decoder, which shows that what is assumed of
zlib can be had, and gives one such decoder: deflate streams made of stored
blocks only, with the checksum that gzip uses.
-/

import Fleetbench.Compression.Zlib
import Fleetbench.Library.LittleEndian

namespace Fleetbench.Compression

open Library

variable {State : Type}

/-! ### The checksum -/

/-- One bit of the cyclic redundancy check with the polynomial of gzip. -/
def crcBit (value : UInt32) : UInt32 :=
  if value &&& 1 = 0 then value >>> 1 else (value >>> 1) ^^^ 0xedb88320

def crcStep (value : UInt32) (byte : UInt8) : UInt32 :=
  ~~~(crcBit (crcBit (crcBit (crcBit (crcBit (crcBit (crcBit (crcBit
    (~~~value ^^^ byte.toUInt32)))))))))

def crc32 (value : UInt32) (bytes : List UInt8) : UInt32 :=
  bytes.foldl crcStep value

example : crc32 0 [0x61] = 0xe8b7be43 := by decide +kernel

/-! ### A decoder with room for its output -/

/-- Reads until the input or the room for output is used up. -/
def inflateFrom (format : Decoder UInt8 UInt8 State) :
    State → List UInt8 → Nat → Inflated State
  | state, [], _ => ⟨.ok, 0, [], state⟩
  | state, byte :: rest, room =>
    match format.step state byte with
    | .more next output =>
      if output.length ≤ room then
        let later := inflateFrom format next rest (room - output.length)
        ⟨later.code, later.consumed + 1, output ++ later.output, later.next⟩
      else ⟨.ok, 0, [], state⟩
    | .last output =>
      if output.length ≤ room then ⟨.streamEnd, 1, output, state⟩ else ⟨.ok, 0, [], state⟩
    | .bad => ⟨.dataError, 1, [], state⟩

/-- `inflate`, which complains if nothing was done or if the end was asked for. -/
def inflateWith (format : Decoder UInt8 UInt8 State) (state : State) (input : List UInt8)
    (room : Nat) (flushMode : Flush) : Inflated State :=
  let inflated := inflateFrom format state input room
  if inflated.code = .ok ∧
      ((inflated.consumed = 0 ∧ inflated.output = []) ∨ flushMode = .finish) then
    { inflated with code := .bufError }
  else inflated

/-- zlib for one format, which has no dictionaries. -/
def zlibOf (format : Decoder UInt8 UInt8 State) : Zlib State Unit where
  inflateInit2 _ := .ok format.start
  inflateReset2 _ _ := (.ok, format.start)
  inflateSetDictionary state _ := (.streamError, state)
  inflate := inflateWith format
  deflateReset := fun _ => (.ok, ())
  crc32 := crc32

theorem inflateFrom_consumed (format : Decoder UInt8 UInt8 State) (state : State)
    (input : List UInt8) (room : Nat) :
    (inflateFrom format state input room).consumed ≤ input.length := by
  induction input generalizing state room with
  | nil => exact Nat.le_refl 0
  | cons byte rest inductionHypothesis =>
    rw [inflateFrom]
    split
    · split
      · exact Nat.succ_le_succ (inductionHypothesis _ _)
      · exact Nat.zero_le _
    · split
      · exact Nat.succ_le_succ (Nat.zero_le _)
      · exact Nat.zero_le _
    · exact Nat.succ_le_succ (Nat.zero_le _)

theorem inflateWith_consumed (format : Decoder UInt8 UInt8 State) (state : State)
    (input : List UInt8) (room : Nat) (flushMode : Flush) :
    (inflateWith format state input room flushMode).consumed ≤ input.length := by
  unfold inflateWith
  dsimp only
  split <;> exact inflateFrom_consumed format state input room

theorem inflateFrom_more {format : Decoder UInt8 UInt8 State} {state after : State}
    {input output : List UInt8} {room : Nat} (fed : format.feed state input = .more after output)
    (enough : output.length ≤ room) :
    inflateFrom format state input room = ⟨.ok, input.length, output, after⟩ := by
  induction input generalizing state output room with
  | nil =>
    cases fed
    rfl
  | cons byte rest inductionHypothesis =>
    rw [Decoder.feed] at fed
    rw [inflateFrom]
    cases stepped : format.step state byte with
    | last said => rw [stepped] at fed; cases fed
    | bad => rw [stepped] at fed; cases fed
    | more next said =>
      rw [stepped] at fed
      simp only at fed
      cases later : format.feed next rest with
      | last _ _ => rw [later] at fed; cases fed
      | bad _ => rw [later] at fed; cases fed
      | more final saidLater =>
        rw [later] at fed
        cases fed
        rw [List.length_append] at enough
        simp only
        rw [if_pos (by omega), inductionHypothesis later (by omega)]
        rfl

theorem inflateFrom_last {format : Decoder UInt8 UInt8 State} {state : State}
    {input output unread : List UInt8} {room : Nat}
    (fed : format.feed state input = .last output unread) (enough : output.length ≤ room) :
    ∃ next, inflateFrom format state input room =
      ⟨.streamEnd, input.length - unread.length, output, next⟩ := by
  induction input generalizing state output room with
  | nil => cases fed
  | cons byte rest inductionHypothesis =>
    rw [Decoder.feed] at fed
    rw [inflateFrom]
    cases stepped : format.step state byte with
    | bad => rw [stepped] at fed; cases fed
    | last said =>
      rw [stepped] at fed
      cases fed
      simp only
      rw [if_pos enough, List.length_cons, Nat.add_sub_cancel_left]
      exact ⟨state, rfl⟩
    | more next said =>
      rw [stepped] at fed
      simp only at fed
      cases later : format.feed next rest with
      | more _ _ => rw [later] at fed; cases fed
      | bad _ => rw [later] at fed; cases fed
      | last saidLater unread' =>
        rw [later] at fed
        cases fed
        rw [List.length_append] at enough
        obtain ⟨word, split, -⟩ := format.feed_eq_last_iff.mp later
        obtain ⟨final, call⟩ := inductionHypothesis later (show _ ≤ room - said.length by omega)
        simp only
        rw [if_pos (by omega), call]
        refine ⟨final, ?_⟩
        have shorter : unread.length ≤ rest.length := by
          rw [split, List.length_append]
          exact Nat.le_add_left _ _
        rw [List.length_cons, Nat.sub_add_comm shorter]

theorem inflateFrom_bad {format : Decoder UInt8 UInt8 State} {state : State}
    {input output : List UInt8} {room : Nat} (fed : format.feed state input = .bad output)
    (enough : output.length ≤ room) :
    ∃ inflated, inflateFrom format state input room = inflated ∧
      inflated.consumed ≤ input.length ∧ inflated.code = .dataError := by
  induction input generalizing state output room with
  | nil => cases fed
  | cons byte rest inductionHypothesis =>
    rw [Decoder.feed] at fed
    rw [inflateFrom]
    cases stepped : format.step state byte with
    | last said => rw [stepped] at fed; cases fed
    | bad => exact ⟨_, rfl, Nat.le_add_left _ _, rfl⟩
    | more next said =>
      rw [stepped] at fed
      simp only at fed
      cases later : format.feed next rest with
      | more _ _ => rw [later] at fed; cases fed
      | last _ _ => rw [later] at fed; cases fed
      | bad saidLater =>
        rw [later] at fed
        cases fed
        rw [List.length_append] at enough
        obtain ⟨inflated, call, within, failed⟩ :=
          inductionHypothesis later (show _ ≤ room - said.length by omega)
        simp only
        rw [if_pos (by omega), call]
        exact ⟨_, rfl, Nat.succ_le_succ within, failed⟩

/-- Such a zlib finds out at once that a byte breaks the format. -/
theorem inflateWith_stuck {format : Decoder UInt8 UInt8 State} {state : State}
    {input output : List UInt8} {room : Nat} (fed : format.feed state input = .bad output)
    (enough : output.length ≤ room) (lost : State → Prop) :
    (inflateWith format state input room .syncFlush).Stuck input room lost := by
  obtain ⟨inflated, call, within, failed⟩ := inflateFrom_bad fed enough
  rw [inflateWith, call, if_neg (by simp [failed])]
  exact ⟨within, by simp [failed], by simp [failed], by simp [failed]⟩

/-- The assumptions on zlib hold of a zlib that is made from its format. -/
theorem inflates_zlibOf (format : Decoder UInt8 UInt8 State) :
    Inflates (zlibOf format) format (· = ·) where
  init := ⟨format.start, rfl, rfl⟩
  reset _ := ⟨format.start, rfl, rfl⟩
  more stream state input room same present after output fed enough := by
    subst same
    have call := inflateFrom_more fed enough
    have some : input.length ≠ 0 := fun none => present (List.length_eq_zero_iff.mp none)
    refine ⟨after, ?_, rfl⟩
    show inflateWith format stream input room .syncFlush = _
    rw [inflateWith, call]
    exact if_neg (by simp [some])
  last stream state input room same output unread fed enough := by
    subst same
    obtain ⟨next, call⟩ := inflateFrom_last fed enough
    refine ⟨next, ?_⟩
    show inflateWith format stream input room .syncFlush = _
    rw [inflateWith, call]
    exact if_neg (by simp)
  bad stream state input room same output fed enough := by
    subst same
    exact inflateWith_stuck fed enough _
  starved stream state room flushMode _ := by
    refine ⟨stream, ?_⟩
    show inflateWith format stream [] room flushMode = _
    rw [inflateWith]
    exact if_pos ⟨rfl, Or.inl ⟨rfl, rfl⟩⟩
  crc := ⟨crcStep, fun _ _ => rfl⟩

/-! ### Stored blocks -/

/-- Where a reader of stored blocks is: before a block, inside its length and the complement of
the length, or with some bytes of it left. -/
inductive StoredState where
  | block
  | len0 (final : Bool)
  | len1 (final : Bool) (low : UInt8)
  | nlen0 (final : Bool) (low high : UInt8)
  | nlen1 (final : Bool) (low high : UInt8)
  | data (final : Bool) (left : Nat)
  deriving DecidableEq, Repr

/-- Behind a block the stream goes on or ends. -/
def endBlock (final : Bool) (output : List UInt8) : Progress UInt8 StoredState :=
  if final then .last output else .more .block output

/-- Deflate streams of stored blocks. Blocks of the other types are not read. -/
def storedFormat : Decoder UInt8 UInt8 StoredState where
  start := .block
  step state byte :=
    match state with
    | .block => if byte &&& 6 = 0 then .more (.len0 (byte &&& 1 = 1)) [] else .bad
    | .len0 final => .more (.len1 final byte) []
    | .len1 final low => .more (.nlen0 final low byte) []
    | .nlen0 final low high => if byte = ~~~low then .more (.nlen1 final low high) [] else .bad
    | .nlen1 final low high =>
      if byte ≠ ~~~high then .bad
      else if fromLittleEndian [low, high] = 0 then endBlock final []
      else .more (.data final (fromLittleEndian [low, high])) []
    | .data final left =>
      if left ≤ 1 then endBlock final [byte] else .more (.data final (left - 1)) [byte]

def storedBlock (final : Bool) (bytes : List UInt8) : List UInt8 :=
  let low := UInt8.ofNat bytes.length
  let high := UInt8.ofNat (bytes.length / 256)
  (if final then 1 else 0) :: low :: high :: ~~~low :: ~~~high :: bytes

/-- What follows a block. -/
def afterBlock (final : Bool) (output rest : List UInt8) : Fed UInt8 UInt8 StoredState :=
  if final then .last output rest else (storedFormat.feed .block rest).after output

theorem feed_data (final : Bool) {bytes : List UInt8} (present : bytes ≠ []) (rest : List UInt8) :
    storedFormat.feed (.data final bytes.length) (bytes ++ rest) = afterBlock final bytes rest := by
  induction bytes with
  | nil => exact absurd rfl present
  | cons byte bytes inductionHypothesis =>
    rw [List.cons_append, Decoder.feed]
    cases bytes with
    | nil => cases final <;> rfl
    | cons next others =>
      have more : storedFormat.step (.data final (byte :: next :: others).length) byte =
          .more (.data final (next :: others).length) [byte] := by
        show (if (byte :: next :: others).length ≤ 1 then endBlock final [byte]
          else .more (.data final (others.length + 1)) [byte]) = _
        exact if_neg (by simp)
      rw [more]
      simp only
      rw [inductionHypothesis (List.cons_ne_nil _ _), afterBlock, afterBlock]
      cases final with
      | true => rfl
      | false => exact Fed.after_after [byte] (next :: others) _

/-- A stored block says its bytes. -/
theorem feed_storedBlock (final : Bool) {bytes : List UInt8} (short : bytes.length < 65536)
    (rest : List UInt8) :
    storedFormat.feed .block (storedBlock final bytes ++ rest) = afterBlock final bytes rest := by
  have length : fromLittleEndian [UInt8.ofNat bytes.length, UInt8.ofNat (bytes.length / 256)] =
      bytes.length := (fromLittleEndian_littleEndian 2 bytes.length).trans (Nat.mod_eq_of_lt short)
  have first : storedFormat.step .block (if final then 1 else 0) = .more (.len0 final) [] := by
    cases final <;> rfl
  have whole (low high : UInt8) : storedFormat.feed .block
      ((if final then 1 else 0) :: low :: high :: ~~~low :: ~~~high :: (bytes ++ rest)) =
      storedFormat.feed (.nlen1 final low high) (~~~high :: (bytes ++ rest)) := by
    rw [Decoder.feed, first]
    simp only
    rw [Fed.after_nil]
    show (((storedFormat.feed (.nlen0 final low high) _).after []).after []) = _
    rw [Fed.after_nil, Fed.after_nil, Decoder.feed]
    have complement : storedFormat.step (.nlen0 final low high) (~~~low) =
        .more (.nlen1 final low high) [] := if_pos rfl
    rw [complement]
    exact Fed.after_nil _
  show storedFormat.feed .block (_ :: _ :: _ :: _ :: _ :: (bytes ++ rest)) = _
  rw [whole, Decoder.feed]
  have last : storedFormat.step (.nlen1 final (UInt8.ofNat bytes.length)
      (UInt8.ofNat (bytes.length / 256))) (~~~UInt8.ofNat (bytes.length / 256)) =
      if bytes.length = 0 then endBlock final [] else .more (.data final bytes.length) [] := by
    show (if _ ≠ _ then _ else if fromLittleEndian _ = 0 then _ else _) = _
    rw [if_neg (not_not_intro rfl), length]
  rw [last]
  by_cases none : bytes.length = 0
  · obtain rfl := List.length_eq_zero_iff.mp none
    cases final <;> rfl
  · rw [if_neg none]
    simp only
    rw [Fed.after_nil]
    exact feed_data final (mt List.length_eq_zero_iff.mpr none) rest

/-- Any number of blocks and a final one: they say their bytes, one after the other. -/
theorem decodes_storedBlocks {blocks : List (List UInt8)} {last : List UInt8}
    (short : ∀ block ∈ blocks, block.length < 65536) (shortLast : last.length < 65536) :
    storedFormat.Decodes (blocks.flatMap (storedBlock false) ++ storedBlock true last)
      (blocks.flatten ++ last) := by
  show storedFormat.feed .block _ = _
  induction blocks with
  | nil =>
    have read := feed_storedBlock true shortLast []
    rwa [List.append_nil] at read
  | cons block blocks inductionHypothesis =>
    have read := inductionHypothesis fun other member => short other (List.mem_cons_of_mem _ member)
    rw [List.flatMap_cons, List.append_assoc,
      feed_storedBlock false (short block List.mem_cons_self), afterBlock,
      if_neg Bool.false_ne_true, read, List.flatten_cons, List.append_assoc]
    rfl

end Fleetbench.Compression
