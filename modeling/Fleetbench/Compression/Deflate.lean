/-
This file is about the half of zlib that compresses. As with the other half,
its functions and the states of its streams are parameters.
-/

import Fleetbench.Compression.Zlib

namespace Fleetbench.Compression

/-! ### Functions -/

/-- What a call of `deflate` does: its code, how many bytes it takes from the input, what it puts
out, and the stream behind it. -/
structure Deflated (Deflater : Type) where
  code : ZCode
  consumed : Nat
  output : List UInt8
  next : Deflater

/-- Both halves of zlib. The strategy is always `Z_DEFAULT_STRATEGY`. -/
structure WholeZlib (Inflater Deflater : Type) extends Zlib Inflater Deflater where
  /-- `deflateInit2` with this level, this window size and this memory level. -/
  deflateInit2 : Int → Int → Int → Except ZCode Deflater
  /-- `deflateParams` on a stream that has not compressed anything since it was reset, where it
  does not flush. -/
  deflateParams : Deflater → Int → ZCode × Deflater
  deflateSetDictionary : Deflater → List UInt8 → ZCode × Deflater
  /-- `deflate` with this input, this room for output and this flush mode. -/
  deflate : Deflater → List UInt8 → Nat → Flush → Deflated Deflater

/-- `deflate` does not put out more than it has room for. -/
def FitsRoom {Inflater Deflater : Type} (zlib : WholeZlib Inflater Deflater) : Prop :=
  ∀ stream input room flushMode, (zlib.deflate stream input room flushMode).output.length ≤ room

namespace ZStream

variable {Inflater Deflater : Type} (zlib : WholeZlib Inflater Deflater)

def deflateInit2 (stream : ZStream Deflater) (level windowBits memLevel : Int) :
    ZCode × ZStream Deflater :=
  match zlib.deflateInit2 level windowBits memLevel with
  | .ok state => (.ok, { stream with state := some state, totalIn := 0, totalOut := 0 })
  | .error code => (code, stream.close)

def deflateParams (stream : ZStream Deflater) (level : Int) : ZCode × ZStream Deflater :=
  match stream.state with
  | none => (.streamError, stream)
  | some state =>
    let (code, next) := zlib.deflateParams state level
    (code, { stream with state := some next })

def deflateSetDictionary (stream : ZStream Deflater) (dictionary : List UInt8) :
    ZCode × ZStream Deflater :=
  match stream.state with
  | none => (.streamError, stream)
  | some state =>
    let (code, next) := zlib.deflateSetDictionary state dictionary
    (code, { stream with state := some next })

/-- `deflate`, with the bytes from `next_in` on; also what it puts out. -/
def deflate (stream : ZStream Deflater) (source : List UInt8) (flushMode : Flush) :
    ZCode × List UInt8 × ZStream Deflater :=
  match stream.state with
  | none => (.streamError, [], stream)
  | some state =>
    let deflated := zlib.deflate state (source.take stream.availIn) stream.availOut flushMode
    (deflated.code, deflated.output,
      { state := some deflated.next
        availIn := stream.availIn - deflated.consumed
        availOut := stream.availOut - deflated.output.length
        totalIn := (stream.totalIn + deflated.consumed) % 2 ^ 64
        totalOut := (stream.totalOut + deflated.output.length) % 2 ^ 64 })

end ZStream

end Fleetbench.Compression
