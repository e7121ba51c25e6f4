/-
This file gives a zlib that compresses at level 0: its streams consist of
stored blocks, with the wrapper of zlib around them unless the window size is
negative. It reads the raw ones back.
-/

import Fleetbench.Compression.Deflate
import Fleetbench.Compression.StoredBlocks

namespace Fleetbench.Compression

open Library

/-! ### Streams -/

/-- The blocks for some bytes, of which the last may be the final one. -/
def storedBlocks (final : Bool) (bytes : List UInt8) : List UInt8 :=
  if bytes.length ≤ 65535 then storedBlock final bytes
  else storedBlock false (bytes.take 65535) ++ storedBlocks final (bytes.drop 65535)
termination_by bytes.length
decreasing_by
  rw [List.length_drop]
  omega

/-- Stored blocks take five bytes for every 65535 bytes that they hold. -/
theorem length_storedBlocks (final : Bool) (bytes : List UInt8) :
    bytes.length ≤ (storedBlocks final bytes).length ∧
      (storedBlocks final bytes).length ≤ bytes.length + 5 * (bytes.length / 65535 + 1) := by
  have block (final : Bool) (bytes : List UInt8) :
      (storedBlock final bytes).length = bytes.length + 5 := rfl
  induction bytes using storedBlocks.induct with
  | case1 bytes small =>
    rw [storedBlocks, if_pos small, block]
    omega
  | case2 bytes large inductionHypothesis =>
    rw [List.length_drop] at inductionHypothesis
    rw [storedBlocks, if_neg large, List.length_append, block, List.length_take]
    omega

/-- The two sums of Adler-32. -/
def adlerStep (sums : Nat × Nat) (byte : UInt8) : Nat × Nat :=
  let low := (sums.1 + byte.toNat) % 65521
  (low, (sums.2 + low) % 65521)

/-- The checksum behind a stream with the wrapper of zlib, the highest byte first. -/
def adlerBytes (sums : Nat × Nat) : List UInt8 :=
  (littleEndian 2 sums.2).reverse ++ (littleEndian 2 sums.1).reverse

/-- A stream: its parameters, the sums of the bytes read, the bytes that are still to be put out,
whether it has begun and whether its end has been asked for. -/
structure StoredDeflater where
  level : Int
  windowBits : Int
  memLevel : Int
  sums : Nat × Nat
  pending : List UInt8
  begun : Bool
  ended : Bool
  deriving DecidableEq

namespace StoredDeflater

def start (level windowBits memLevel : Int) : StoredDeflater where
  level := level
  windowBits := windowBits
  memLevel := memLevel
  sums := (1, 0)
  pending := []
  begun := false
  ended := false

/-- The header of zlib. -/
def opening (stream : StoredDeflater) : List UInt8 :=
  if stream.begun = false ∧ 0 < stream.windowBits then [0x78, 0x01] else []

/-- What a call adds to the stream. -/
def produced (stream : StoredDeflater) (input : List UInt8) : Flush → List UInt8
  | .syncFlush => (if input = [] then [] else storedBlocks false input) ++ storedBlock false []
  | .finish =>
    storedBlocks true input ++
      if 0 < stream.windowBits then adlerBytes (input.foldl adlerStep stream.sums) else []

/-- The stream with the input and the flush mode of a call. -/
def extended (stream : StoredDeflater) (input : List UInt8) (flushMode : Flush) : StoredDeflater :=
  if stream.ended then stream
  else { stream with
    sums := input.foldl adlerStep stream.sums
    pending := stream.pending ++ stream.opening ++ stream.produced input flushMode
    begun := true
    ended := flushMode = .finish }

/-- `deflate`. -/
def deflate (stream : StoredDeflater) (input : List UInt8) (room : Nat) (flushMode : Flush) :
    Deflated StoredDeflater :=
  if stream.ended ∧ (input ≠ [] ∨ flushMode ≠ .finish) then ⟨.streamError, 0, [], stream⟩
  else if room = 0 then ⟨.bufError, 0, [], stream⟩
  else
    let whole := stream.extended input flushMode
    let next := { whole with pending := whole.pending.drop room }
    ⟨if next.ended ∧ next.pending = [] then .streamEnd else .ok, input.length,
      whole.pending.take room, next⟩

end StoredDeflater

/-- A zlib of stored blocks, which has no dictionaries. -/
def storedZlib : WholeZlib StoredState StoredDeflater where
  toZlib :=
    { inflateInit2 := fun _ => .ok storedFormat.start
      inflateReset2 := fun _ _ => (.ok, storedFormat.start)
      inflateSetDictionary := fun state _ => (.streamError, state)
      inflate := inflateWith storedFormat
      deflateReset := fun stream =>
        (.ok, StoredDeflater.start stream.level stream.windowBits stream.memLevel)
      crc32 := crc32 }
  deflateInit2 := fun level windowBits memLevel =>
    .ok (StoredDeflater.start level windowBits memLevel)
  deflateParams := fun stream level => (.ok, { stream with level := level })
  deflateSetDictionary := fun stream _ => (.streamError, stream)
  deflate := StoredDeflater.deflate

end Fleetbench.Compression
