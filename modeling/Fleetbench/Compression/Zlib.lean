/-
This file is about the part of zlib that the wrapper calls. zlib itself is a
parameter: its functions, with the states of its streams, and what its
documentation promises about them, stated against a decoder of the raw deflate
format.
-/

import Fleetbench.Library.Decoder
import Mathlib.Algebra.Ring.Nat
import Mathlib.Algebra.Ring.Int.Defs

namespace Fleetbench.Compression

open Library

/-! ### Functions -/

/-- The return codes `Z_OK`, `Z_STREAM_END` and so on. -/
inductive ZCode where
  | ok
  | streamEnd
  | needDict
  | streamError
  | dataError
  | memError
  | bufError
  | versionError
  deriving DecidableEq, Repr

inductive Flush where
  | syncFlush
  | finish
  deriving DecidableEq, Repr

/-- What a call of `inflate` does: its code, how many bytes it takes from the input, what it puts
out, and the stream behind it. -/
structure Inflated (Inflater : Type) where
  code : ZCode
  consumed : Nat
  output : List UInt8
  next : Inflater

structure Zlib (Inflater Deflater : Type) where
  inflateInit2 : Int → Except ZCode Inflater
  inflateReset2 : Inflater → Int → ZCode × Inflater
  inflateSetDictionary : Inflater → List UInt8 → ZCode × Inflater
  /-- `inflate` with this input, this room for output and this flush mode. -/
  inflate : Inflater → List UInt8 → Nat → Flush → Inflated Inflater
  deflateReset : Deflater → ZCode × Deflater
  crc32 : UInt32 → List UInt8 → UInt32

/-- The fields of `z_stream` that the wrapper reads or writes. The internal state is absent before
initialization and after the end. -/
structure ZStream (State : Type) where
  state : Option State
  availIn : Nat
  availOut : Nat
  totalIn : Nat
  totalOut : Nat

namespace ZStream

variable {State Inflater Deflater : Type}

def blank : ZStream State where
  state := none
  availIn := 0
  availOut := 0
  totalIn := 0
  totalOut := 0

/-- `inflateEnd` and `deflateEnd`. -/
def close (stream : ZStream State) : ZStream State :=
  { stream with state := none }

def inflateInit2 (zlib : Zlib Inflater Deflater) (stream : ZStream Inflater) (windowBits : Int) :
    ZCode × ZStream Inflater :=
  match zlib.inflateInit2 windowBits with
  | .ok state => (.ok, { stream with state := some state, totalIn := 0, totalOut := 0 })
  | .error code => (code, stream.close)

def inflateReset2 (zlib : Zlib Inflater Deflater) (stream : ZStream Inflater) (windowBits : Int) :
    ZCode × ZStream Inflater :=
  match stream.state with
  | none => (.streamError, stream)
  | some state =>
    let (code, next) := zlib.inflateReset2 state windowBits
    (code, { stream with state := some next, totalIn := 0, totalOut := 0 })

def inflateSetDictionary (zlib : Zlib Inflater Deflater) (stream : ZStream Inflater)
    (dictionary : List UInt8) : ZCode × ZStream Inflater :=
  match stream.state with
  | none => (.streamError, stream)
  | some state =>
    let (code, next) := zlib.inflateSetDictionary state dictionary
    (code, { stream with state := some next })

/-- `inflate`, with the bytes from `next_in` on; also what it puts out. -/
def inflate (zlib : Zlib Inflater Deflater) (stream : ZStream Inflater) (source : List UInt8)
    (flushMode : Flush) : ZCode × List UInt8 × ZStream Inflater :=
  match stream.state with
  | none => (.streamError, [], stream)
  | some state =>
    let inflated := zlib.inflate state (source.take stream.availIn) stream.availOut flushMode
    (inflated.code, inflated.output,
      { state := some inflated.next
        availIn := stream.availIn - inflated.consumed
        availOut := stream.availOut - inflated.output.length
        totalIn := (stream.totalIn + inflated.consumed) % 2 ^ 64
        totalOut := (stream.totalOut + inflated.output.length) % 2 ^ 64 })

def deflateReset (zlib : Zlib Inflater Deflater) (stream : ZStream Deflater) :
    ZCode × ZStream Deflater :=
  match stream.state with
  | none => (.streamError, stream)
  | some state =>
    let (code, next) := zlib.deflateReset state
    (code, { stream with state := some next, totalIn := 0, totalOut := 0 })

end ZStream

/-! ### What its documentation promises -/

/-- `inflate` does not read more than it is given. -/
def FitsInput {Inflater Deflater : Type} (zlib : Zlib Inflater Deflater) : Prop :=
  ∀ stream input room flushMode, (zlib.inflate stream input room flushMode).consumed ≤ input.length

/-- `MAX_WBITS`. -/
def maxWbits : Int := 15

/-- A call that does not get over a byte that no word has there: it reports an error, or there is no
more room for output. If it has read all of its input then, the stream is lost. -/
structure Inflated.Stuck {Inflater : Type} (inflated : Inflated Inflater) (input : List UInt8)
    (room : Nat) (lost : Inflater → Prop) : Prop where
  within : inflated.consumed ≤ input.length
  notEnd : inflated.code ≠ .streamEnd
  full : inflated.code = .ok → inflated.output.length = room
  next : inflated.code = .ok → inflated.consumed = input.length → lost inflated.next

/-- The streams of a set are lost: no call of `inflate` gets them anywhere else, or reaches an end,
and without input and room a call has nothing to do. -/
structure AllLost {Inflater Deflater : Type} (zlib : Zlib Inflater Deflater)
    (lost : Inflater → Prop) : Prop where
  stuck : ∀ stream, lost stream → ∀ input room flushMode,
    (zlib.inflate stream input room flushMode).Stuck input room lost
  starved : ∀ stream, lost stream → ∀ flushMode, (zlib.inflate stream [] 0 flushMode).code ≠ .ok

def Lost {Inflater Deflater : Type} (zlib : Zlib Inflater Deflater) (stream : Inflater) : Prop :=
  ∃ lost, AllLost zlib lost ∧ lost stream

/-- The streams that are lost are such a set. -/
theorem allLost_lost {Inflater Deflater : Type} (zlib : Zlib Inflater Deflater) :
    AllLost zlib (Lost zlib) where
  stuck := by
    rintro stream ⟨lost, allLost, isLost⟩ input room flushMode
    obtain ⟨within, notEnd, full, next⟩ := allLost.stuck stream isLost input room flushMode
    exact ⟨within, notEnd, full, fun ok all => ⟨lost, allLost, next ok all⟩⟩
  starved := by
    rintro stream ⟨lost, allLost, isLost⟩ flushMode
    exact allLost.starved stream isLost flushMode

/-- The functions decode the raw deflate format, given by a decoder. A stream of zlib is at a state
of the decoder, whatever calls of `inflate` led there; a call with enough room for output reads all
of its input unless the format ends or breaks before. Where it breaks, zlib may find out later, if
the room for output has been used up before. -/
structure Inflates {Inflater Deflater State : Type} (zlib : Zlib Inflater Deflater)
    (format : Decoder UInt8 UInt8 State) (at_ : Inflater → State → Prop) : Prop where
  init : ∃ stream, zlib.inflateInit2 (-maxWbits) = .ok stream ∧ at_ stream format.start
  reset : ∀ stream, ∃ next, zlib.inflateReset2 stream (-maxWbits) = (.ok, next) ∧
    at_ next format.start
  more : ∀ stream state input room, at_ stream state → input ≠ [] →
    ∀ after output, format.feed state input = .more after output → output.length ≤ room →
      ∃ next, zlib.inflate stream input room .syncFlush = ⟨.ok, input.length, output, next⟩ ∧
        at_ next after
  last : ∀ stream state input room, at_ stream state →
    ∀ output unread, format.feed state input = .last output unread → output.length ≤ room →
      ∃ next, zlib.inflate stream input room .syncFlush =
        ⟨.streamEnd, input.length - unread.length, output, next⟩
  bad : ∀ stream state input room, at_ stream state →
    ∀ output, format.feed state input = .bad output → output.length ≤ room →
      (zlib.inflate stream input room .syncFlush).Stuck input room (Lost zlib)
  starved : ∀ stream state room flushMode, at_ stream state →
    ∃ next, zlib.inflate stream [] room flushMode = ⟨.bufError, 0, [], next⟩
  crc : ∃ step, ∀ value bytes, zlib.crc32 value bytes = bytes.foldl step value

end Fleetbench.Compression
