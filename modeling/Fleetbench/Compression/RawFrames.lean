/-
This file gives a zstd whose frames hold raw blocks: a header with the length of
the content in eight bytes, and blocks of at most 128 KiB, each behind three
bytes with its size. The library writes such frames for data that it cannot
compress. Any context makes and reads them.
-/

import Fleetbench.Compression.Compressors

namespace Fleetbench.Compression

open Library

/-! ### Blocks -/

/-- The header of a raw block: its size, two zero bits for its type, and whether it is the last. -/
def blockHeader (last : Bool) (size : Nat) : List UInt8 := littleEndian 3 (8 * size + last.toNat)

def rawBlocks (bytes : List UInt8) : List UInt8 :=
  if bytes.length ≤ 131072 then blockHeader true bytes.length ++ bytes
  else blockHeader false 131072 ++ (bytes.take 131072 ++ rawBlocks (bytes.drop 131072))
termination_by bytes.length
decreasing_by
  rw [List.length_drop]
  omega

/-- The content of raw blocks, of which there are at most as many as bytes. -/
def readBlocks : Nat → List UInt8 → Option (List UInt8)
  | 0, _ => none
  | fuel + 1, bytes =>
    let header := fromLittleEndian (bytes.take 3)
    let rest := bytes.drop 3
    let size := header / 8
    if bytes.length < 3 ∨ header / 2 % 4 ≠ 0 ∨ rest.length < size then none
    else if header % 2 = 1 then if rest.length = size then some rest else none
    else (readBlocks fuel (rest.drop size)).map (rest.take size ++ ·)

theorem length_rawBlocks (bytes : List UInt8) :
    bytes.length + 3 ≤ (rawBlocks bytes).length ∧
      (rawBlocks bytes).length ≤ bytes.length + 3 * (bytes.length / 131072 + 1) := by
  have header (last : Bool) (size : Nat) : (blockHeader last size).length = 3 :=
    length_littleEndian 3 _
  induction bytes using rawBlocks.induct with
  | case1 bytes short =>
    rw [rawBlocks, if_pos short, List.length_append, header]
    omega
  | case2 bytes long inductionHypothesis =>
    rw [rawBlocks, if_neg long, List.length_append, List.length_append, header, List.length_take]
    rw [List.length_drop] at inductionHypothesis
    omega

/-- One block off the front. -/
theorem readBlocks_block (last : Bool) {block : List UInt8} (short : block.length ≤ 131072)
    (rest : List UInt8) (fuel : Nat) :
    readBlocks (fuel + 1) (blockHeader last block.length ++ (block ++ rest)) =
      if last then if rest = [] then some block else none
      else (readBlocks fuel rest).map (block ++ ·) := by
  have header : (blockHeader last block.length).length = 3 := length_littleEndian 3 _
  have front : (blockHeader last block.length ++ (block ++ rest)).take 3 =
      blockHeader last block.length := by
    rw [← header, List.take_left']
    rfl
  have behind : (blockHeader last block.length ++ (block ++ rest)).drop 3 = block ++ rest := by
    rw [← header, List.drop_left']
    rfl
  have small : last.toNat < 2 := by cases last <;> decide
  have value : fromLittleEndian (blockHeader last block.length) =
      8 * block.length + last.toNat := by
    rw [blockHeader, fromLittleEndian_littleEndian]
    exact Nat.mod_eq_of_lt (by omega)
  have size : (8 * block.length + last.toNat) / 8 = block.length := by omega
  have sound : ¬ ((blockHeader last block.length ++ (block ++ rest)).length < 3 ∨
      (8 * block.length + last.toNat) / 2 % 4 ≠ 0 ∨ (block ++ rest).length < block.length) := by
    rw [List.length_append, List.length_append, header]
    omega
  rw [readBlocks, front, behind, value, size, if_neg sound]
  cases last with
  | true =>
    have odd : (8 * block.length + true.toNat) % 2 = 1 := by
      show (8 * block.length + 1) % 2 = 1
      omega
    rw [if_pos odd, if_pos rfl, List.length_append]
    by_cases empty : rest = []
    · rw [if_pos empty, empty, List.append_nil]
      exact if_pos rfl
    · have more := List.length_pos_iff.mpr empty
      rw [if_neg empty, if_neg (by omega)]
  | false =>
    have even : ¬ (8 * block.length + false.toNat) % 2 = 1 := by
      show ¬ (8 * block.length + 0) % 2 = 1
      omega
    rw [if_neg even, if_neg Bool.false_ne_true, List.take_left, List.drop_left]

theorem readBlocks_rawBlocks {bytes : List UInt8} {fuel : Nat}
    (enough : (rawBlocks bytes).length ≤ fuel) :
    readBlocks fuel (rawBlocks bytes) = some bytes := by
  have longer := (length_rawBlocks bytes).1
  induction bytes using rawBlocks.induct generalizing fuel with
  | case1 bytes short =>
    obtain ⟨fuel, rfl⟩ := Nat.exists_eq_add_one_of_ne_zero (show fuel ≠ 0 by omega)
    have read := readBlocks_block true short [] fuel
    rw [List.append_nil] at read
    rw [rawBlocks, if_pos short, read]
    rfl
  | case2 bytes long inductionHypothesis =>
    obtain ⟨fuel, rfl⟩ := Nat.exists_eq_add_one_of_ne_zero (show fuel ≠ 0 by omega)
    have full : (bytes.take 131072).length = 131072 := by
      rw [List.length_take]
      omega
    have read := readBlocks_block false (Nat.le_of_eq full) (rawBlocks (bytes.drop 131072)) fuel
    rw [full] at read
    rw [rawBlocks, if_neg long, List.length_append, List.length_append] at enough
    have header : (blockHeader false 131072).length = 3 := length_littleEndian 3 _
    rw [rawBlocks, if_neg long, read, if_neg Bool.false_ne_true,
      inductionHypothesis (by omega) (length_rawBlocks _).1, Option.map_some,
      List.take_append_drop]

/-! ### Frames -/

/-- The magic number, and the descriptor of a header that only has the size of the content. -/
def frameStart : List UInt8 := [0x28, 0xB5, 0x2F, 0xFD, 0xE0]

def rawFrame (input : List UInt8) : List UInt8 :=
  frameStart ++ (littleEndian 8 input.length ++ rawBlocks input)

/-- The size and the blocks of a frame. -/
def readFrame (bytes : List UInt8) : Option (Nat × List UInt8) :=
  if bytes.take 5 = frameStart ∧ 13 ≤ bytes.length then
    some (fromLittleEndian ((bytes.drop 5).take 8), bytes.drop 13)
  else none

/-- A zstd that makes raw frames. -/
def rawZstd : Zstd Unit Unit where
  createCCtx := ()
  createDCtx := ()
  setParameter _ _ _ := ()
  compressBound size :=
    if size < 0xFF00FF00FF00FF00 then
      some (size + size / 256 + if size < 131072 then (131072 - size) / 2048 else 0)
    else none
  compress2 _ room input :=
    (if (rawFrame input).length ≤ room then some (rawFrame input) else none, ())
  getDecompressedSize bytes := ((readFrame bytes).map Prod.fst).getD 0
  decompressDCtx _ room bytes :=
    ((readFrame bytes).bind fun (_, blocks) =>
      (readBlocks blocks.length blocks).bind fun content =>
        if content.length ≤ room then some content else none, ())

theorem readFrame_rawFrame {input : List UInt8} (short : input.length < 2 ^ 64) :
    readFrame (rawFrame input) = some (input.length, rawBlocks input) := by
  have size : (littleEndian 8 input.length).length = 8 := length_littleEndian 8 _
  have front : (rawFrame input).take 5 = frameStart := List.take_left' rfl
  have behind : (rawFrame input).drop 5 = littleEndian 8 input.length ++ rawBlocks input :=
    List.drop_left' rfl
  have blocks : (rawFrame input).drop 13 = rawBlocks input := by
    rw [show 13 = 5 + 8 from rfl, ← List.drop_drop, behind, List.drop_left' size]
  have long : 13 ≤ (rawFrame input).length := by
    rw [rawFrame, List.length_append, List.length_append, size]
    show 13 ≤ 5 + _
    omega
  unfold readFrame
  rw [if_pos ⟨front, long⟩, behind, blocks, List.take_left' size, fromLittleEndian_littleEndian,
    Nat.mod_eq_of_lt (Nat.lt_of_lt_of_eq short (by decide))]

theorem frames_rawZstd :
    rawZstd.Frames fun input output => output = rawFrame input ∧ input.length < 2 ^ 64 where
  bound size short := ⟨_, if_pos (Nat.lt_trans short (by decide))⟩
  compress2 := by
    rintro ⟨⟩ input bound bounds
    have blocks := (length_rawBlocks input).2
    have length : (rawFrame input).length = 13 + (rawBlocks input).length := by
      rw [rawFrame, List.length_append, List.length_append, length_littleEndian]
      show 5 + (8 + _) = _
      omega
    have bounds : (if input.length < 0xFF00FF00FF00FF00 then
        some (input.length + input.length / 256 +
          if input.length < 131072 then (131072 - input.length) / 2048 else 0) else none) =
        some bound := bounds
    split at bounds
    · rename_i short
      have exact : input.length + input.length / 256 +
        (if input.length < 131072 then (131072 - input.length) / 2048 else 0) = bound :=
        Option.some.inj bounds
      have fits : (rawFrame input).length ≤ bound := by
        split at exact
        · omega
        · omega
      exact ⟨rawFrame input, (), congrArg (·, ()) (if_pos fits), rfl,
        Nat.lt_trans short (by decide)⟩
    · cases bounds
  present := by
    rintro input output ⟨rfl, -⟩
    exact List.cons_ne_nil _ _
  size := by
    rintro input output ⟨rfl, short⟩
    show ((readFrame (rawFrame input)).map Prod.fst).getD 0 = input.length
    rw [readFrame_rawFrame short]
    rfl
  decompressDCtx := by
    rintro ⟨⟩ input output ⟨rfl, short⟩
    refine ⟨(), congrArg (·, ()) ?_⟩
    show (readFrame (rawFrame input)).bind _ = _
    rw [readFrame_rawFrame short, Option.bind_some]
    dsimp only
    rw [readBlocks_rawBlocks (Nat.le_refl _), Option.bind_some, if_pos (Nat.le_refl _)]

end Fleetbench.Compression
