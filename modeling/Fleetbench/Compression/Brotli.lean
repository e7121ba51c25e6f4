/-
This file models `BrotliCompressor`. The Brotli library is a parameter: the
functions of its decoder and its encoder, with the states of their instances.
Neither is given a buffer for its output, so both hold it until `TakeOutput`.

A call that aborts has no result, nor has one whose loops run out of fuel.
-/

import Fleetbench.Library.Loop
import Mathlib.Data.List.Basic
import Mathlib.Algebra.Ring.Nat
import Mathlib.Algebra.Ring.Int.Defs

namespace Fleetbench.Compression

open Library

/-! ### The library -/

/-- `BROTLI_DECODER_RESULT_ERROR` and so on. -/
inductive BrotliDecoderResult where
  | error
  | success
  | needsMoreInput
  | needsMoreOutput
  deriving DecidableEq, Repr

/-- What a call of `BrotliDecoderDecompressStream` without a buffer does: its result, how many
bytes it takes from the input, and the instance behind it. -/
structure Decompressed (State : Type) where
  result : BrotliDecoderResult
  consumed : Nat
  next : State

structure BrotliDecoder (State : Type) where
  createInstance : Option State
  decompressStream : State → List UInt8 → Decompressed State
  takeOutput : State → List UInt8 × State

/-- `BROTLI_PARAM_QUALITY` and so on. -/
inductive BrotliEncoderParameter where
  | quality
  | lgwin
  | sizeHint
  deriving DecidableEq, Repr

/-- `BROTLI_OPERATION_PROCESS` and `BROTLI_OPERATION_FINISH`. -/
inductive BrotliEncoderOperation where
  | process
  | finish
  deriving DecidableEq, Repr

/-- What a call of `BrotliEncoderCompressStream` without a buffer does. -/
structure Encoded (State : Type) where
  result : Bool
  consumed : Nat
  next : State

structure BrotliEncoder (State : Type) where
  createInstance : Option State
  /-- `BrotliEncoderSetParameter`; the value is an unsigned int. -/
  setParameter : State → BrotliEncoderParameter → Nat → Option State
  compressStream : State → BrotliEncoderOperation → List UInt8 → Encoded State
  takeOutput : State → List UInt8 × State
  isFinished : State → Bool

/-! ### Decompression -/

/-- The local variables of `Decompress`. -/
structure Decompressing (State : Type) where
  state : State
  input : List UInt8
  output : List UInt8
  result : BrotliDecoderResult

namespace BrotliDecoder

variable {State : Type} (decoder : BrotliDecoder State)

/-- The loop that reads the input. -/
def readRound (locals : Decompressing State) :
    Round (Decompressing State) (Decompressing State) :=
  if locals.input ≠ [] ∧ locals.result ≠ .error then
    let called := decoder.decompressStream locals.state locals.input
    let input := locals.input.drop called.consumed
    let (buffer, state) := decoder.takeOutput called.next
    if buffer ≠ [] then .again ⟨state, input, locals.output ++ buffer, called.result⟩
    else if called.result = .success then .stop ⟨state, input, locals.output, called.result⟩
    else .again ⟨state, input, locals.output, called.result⟩
  else .stop locals

/-- The loop that takes the rest of the output. -/
def drainRound (locals : Decompressing State) :
    Round (Decompressing State) (Decompressing State) :=
  if locals.result = .needsMoreOutput then
    let called := decoder.decompressStream locals.state []
    let (buffer, state) := decoder.takeOutput called.next
    .again ⟨state, locals.input, locals.output ++ buffer, called.result⟩
  else .stop locals

/-- `BrotliCompressor::Decompress`, with the string it leaves in `*output`. -/
def decompress (fuel : Nat) (input _output : List UInt8) : Option (Bool × List UInt8) := do
  let state ← decoder.createInstance
  let read ← loop decoder.readRound fuel ⟨state, input, [], .success⟩
  let drained ← loop decoder.drainRound fuel read
  return (drained.result = .success ∧ drained.input = [], drained.output)

end BrotliDecoder

/-! ### Compression -/

/-- The members of `BrotliCompressor`. -/
structure BrotliCompressor where
  compressionLevel : Int
  windowLog : Int

/-- The conversion to an unsigned int. -/
def toUInt32 (value : Int) : Nat := (value % 2 ^ 32).toNat

/-- The local variables of `Compress`. -/
structure Compressing (State : Type) where
  state : State
  input : List UInt8
  output : List UInt8
  result : Bool

namespace BrotliEncoder

variable {State : Type} (encoder : BrotliEncoder State)

/-- A new instance with the parameters for some input. -/
def prepared (compressor : BrotliCompressor) (inputSize : Nat) : Option State := do
  let state ← encoder.createInstance
  let state ← encoder.setParameter state .quality (toUInt32 compressor.compressionLevel)
  let state ← encoder.setParameter state .lgwin (toUInt32 compressor.windowLog)
  encoder.setParameter state .sizeHint (toUInt32 inputSize)

/-- The loop that hands over the input. -/
def processRound (locals : Compressing State) : Round (Compressing State) (Compressing State) :=
  if locals.input ≠ [] ∧ locals.result = true then
    let called := encoder.compressStream locals.state .process locals.input
    let (buffer, state) := encoder.takeOutput called.next
    .again ⟨state, locals.input.drop called.consumed, locals.output ++ buffer, called.result⟩
  else .stop locals

/-- The loop that finishes the stream. -/
def finishRound (locals : Compressing State) : Round (Compressing State) (Compressing State) :=
  if locals.result = true ∧ encoder.isFinished locals.state = false then
    let called := encoder.compressStream locals.state .finish []
    let (buffer, state) := encoder.takeOutput called.next
    .again ⟨state, locals.input, locals.output ++ buffer, called.result⟩
  else .stop locals

/-- `BrotliCompressor::Compress`, with the string it leaves in `*output`. -/
def compress (compressor : BrotliCompressor) (fuel : Nat) (input _output : List UInt8) :
    Option (Nat × List UInt8) := do
  let state ← encoder.prepared compressor input.length
  let processed ← loop encoder.processRound fuel ⟨state, input, [], true⟩
  let finished ← loop encoder.finishRound fuel processed
  if finished.result then return (finished.output.length, finished.output) else none

end BrotliEncoder

end Fleetbench.Compression
