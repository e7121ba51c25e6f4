/-
This file models the record-and-replay half of `EmpiricalData`
(`tcmalloc/empirical.h` and `tcmalloc/empirical.cc`), member for member.

A value `none` stands for what the C++ has no defined answer to: a failed
`CHECK`, an access outside a vector, a store through a null pointer, a replay
loop that never ends. The two callbacks `alloc_` and `dealloc_` are seen only
through the list of calls made so far; an allocator is any function from that
history and a size to a pointer. Every random draw is an argument. Class
numbers are stored in 16 bits, the two replay cursors in 32, the counters in 64.
-/

import Fleetbench.Library.Vector
import Fleetbench.Tcmalloc.AdjustableSampler
import Mathlib.Algebra.Ring.Nat
import Mathlib.Algebra.Ring.Int.Defs

namespace Fleetbench.Tcmalloc

open Library

/-! ### The allocator seen from outside -/

abbrev Ptr := Nat

def nullptr : Ptr := 0

/-- One call of `alloc_` (with the pointer it returned) or of `dealloc_`. -/
inductive Call where
  | alloc (size : Nat) (pointer : Ptr)
  | dealloc (pointer : Ptr) (size : Nat)
  deriving DecidableEq, Repr

/-- `alloc_` answers a size; the answer may depend on every call made before. -/
abbrev Allocator := List Call → Nat → Ptr

/-! ### The data members -/

structure ObjectIndex where
  born : Bool
  index : Nat
  deriving DecidableEq, Repr

abbrev UpdatePair := Move

structure SizeState (Weight : Type) where
  size : Nat
  deathRate : Weight
  objs : List Ptr
  objsIndicesAfterRecording : List ObjectIndex := []
  objUpdate : List UpdatePair := []
  birthUpdate : List UpdatePair := []
  deathUpdate : List UpdatePair := []
  deriving DecidableEq, Repr

/-- A `void**` of `birth_pointers_`: null, or the address of a slot of `death_objects_` or of
`birth_objects_`. -/
inductive Slot where
  | null
  | deathObject (index : Nat)
  | birthObject (index : Nat)
  deriving DecidableEq, Repr

/-- One decision of the recording: a birth in class `i`, or the death of the object at
position `toFree` of class `i`. -/
inductive RecordEvent where
  | birth (i : Nat)
  | death (i toFree : Nat)
  deriving DecidableEq, Repr

/-- The members of `EmpiricalData` that the recording and the replay use. `recorded` is a
ghost member: it keeps the recorded decisions together with their draws, and no function
reads it. -/
structure EmpiricalData (Weight : Type) where
  totalNumAllocated : Nat := 0
  totalBytesAllocated : Nat := 0
  state : List (SizeState Weight)
  deathSampler : AdjustableSampler Weight
  snapshotState : List (SizeState Weight) := []
  birthOrDeath : List Bool := []
  birthOrDeathSizes : List Nat := []
  birthOrDeathActualSizes : List Nat := []
  deathObjects : List Ptr := []
  birthObjects : List Ptr := []
  deathObjectIndex : Nat := 0
  birthObjectIndex : Nat := 0
  numAllocatedRecorded : Nat := 0
  bytesAllocatedRecorded : Nat := 0
  birthPointers : List Slot := []
  deathObjIndices : List ObjectIndex := []
  recorded : List RecordEvent := []
  deriving DecidableEq, Repr

variable {Weight : Type} [Zero Weight] [Add Weight] [Neg Weight]

/-! ### Construction -/

def doBirth (alloc : Allocator) (i : Nat) (data : EmpiricalData Weight) (calls : List Call) :
    Option (EmpiricalData Weight × List Call) := do
  let s ← data.state[i]?
  let p := alloc calls s.size
  return ({ data with
      deathSampler := data.deathSampler.adjustWeight i s.deathRate
      totalNumAllocated := (data.totalNumAllocated + 1) % 2 ^ 64
      totalBytesAllocated := (data.totalBytesAllocated + s.size) % 2 ^ 64
      state := data.state.set i { s with objs := s.objs ++ [p] } },
    calls ++ [.alloc s.size p])

/-- The warm-up loop of the constructor: one `DoBirth` for each class drawn from the live
distribution. -/
def doBirths (alloc : Allocator) : List Nat → EmpiricalData Weight → List Call →
    Option (EmpiricalData Weight × List Call)
  | [], data, calls => some (data, calls)
  | i :: rest, data, calls => do
    let (data, calls) ← doBirth alloc i data calls
    doBirths alloc rest data calls

def snapshotLiveObjects (data : EmpiricalData Weight) : EmpiricalData Weight :=
  { data with
    snapshotState := data.snapshotState ++ data.state.map fun s =>
      { size := s.size
        deathRate := s.deathRate
        objs := s.objs
        objsIndicesAfterRecording := s.objsIndicesAfterRecording } }

/-- The constructor, from the size and the death rate of each class and the classes drawn by
the warm-up loop. -/
def construct (alloc : Allocator) (weights : List (Nat × Weight)) (draws : List Nat) :
    Option (EmpiricalData Weight × List Call) := do
  let deathSampler ← AdjustableSampler.ofSize weights.length
  let empty : EmpiricalData Weight :=
    { state := weights.map fun w => { size := w.1, deathRate := w.2, objs := [] }
      deathSampler }
  let (data, calls) ← doBirths alloc draws empty []
  let data := snapshotLiveObjects data
  return ({ data with
    state := data.state.map fun s =>
      { s with
        objsIndicesAfterRecording := s.objsIndicesAfterRecording ++
          (List.range s.objs.length).map fun i => ⟨false, i⟩ } }, calls)

/-! ### Recording -/

def recordBirth (i : Nat) (data : EmpiricalData Weight) : Option (EmpiricalData Weight) := do
  let s ← data.state[i]?
  return { data with
    birthOrDeath := data.birthOrDeath ++ [true]
    birthOrDeathSizes := data.birthOrDeathSizes ++ [i % 2 ^ 16]
    birthOrDeathActualSizes := data.birthOrDeathActualSizes ++ [s.size]
    deathSampler := data.deathSampler.adjustWeight i s.deathRate
    numAllocatedRecorded := (data.numAllocatedRecorded + 1) % 2 ^ 64
    bytesAllocatedRecorded := (data.bytesAllocatedRecorded + s.size) % 2 ^ 64
    state := data.state.set i { s with
      objs := s.objs ++ [nullptr]
      objsIndicesAfterRecording :=
        s.objsIndicesAfterRecording ++ [⟨true, data.birthObjectIndex⟩] }
    birthObjectIndex := (data.birthObjectIndex + 1) % 2 ^ 32
    recorded := data.recorded ++ [.birth i] }

/-- `RecordDeath`, given the index its uniform draw returned. A draw outside the class is not
one the distribution makes. -/
def recordDeath (i toFree : Nat) (data : EmpiricalData Weight) :
    Option (EmpiricalData Weight) := do
  let s ← data.state[i]?
  guard (s.objs ≠ [])
  guard (toFree < s.objs.length)
  let index ← s.objsIndicesAfterRecording[toFree]?
  return { data with
    birthOrDeath := data.birthOrDeath ++ [false]
    birthOrDeathSizes := data.birthOrDeathSizes ++ [i % 2 ^ 16]
    birthOrDeathActualSizes := data.birthOrDeathActualSizes ++ [s.size]
    deathSampler := data.deathSampler.adjustWeight i (-s.deathRate)
    deathObjIndices := data.deathObjIndices ++ [index]
    state := data.state.set i { s with
      objs := swapRemove s.objs toFree
      objsIndicesAfterRecording := swapRemove s.objsIndicesAfterRecording toFree }
    recorded := data.recorded ++ [.death i toFree] }

/-- `RecordNext`, given which branch it drew, for which class and with which index. -/
def recordNext (data : EmpiricalData Weight) : RecordEvent → Option (EmpiricalData Weight)
  | .birth i => recordBirth i data
  | .death i toFree => recordDeath i toFree data

def recordAll : List RecordEvent → EmpiricalData Weight → Option (EmpiricalData Weight)
  | [], data => some data
  | event :: rest, data => (recordNext data event).bind (recordAll rest)

/-- The first `while` of the repair: births until class `i` has `target` objects. -/
def recordBirthsUpTo (i target : Nat) : Nat → EmpiricalData Weight →
    Option (EmpiricalData Weight)
  | fuel, data => do
    let s ← data.state[i]?
    if s.objs.length < target then
      match fuel with
      | 0 => none
      | fuel + 1 => (recordBirth i data).bind (recordBirthsUpTo i target fuel)
    else some data

/-- The second `while` of the repair: deaths until class `i` has `target` objects. The draw
may depend on the class and on its length, and each pair of them occurs once. -/
def recordDeathsDownTo (draw : Nat → Nat → Nat) (i target : Nat) : Nat →
    EmpiricalData Weight → Option (EmpiricalData Weight)
  | fuel, data => do
    let s ← data.state[i]?
    if target < s.objs.length then
      match fuel with
      | 0 => none
      | fuel + 1 =>
        (recordDeath i (draw i s.objs.length) data).bind
          (recordDeathsDownTo draw i target fuel)
    else some data

/-- The body of the repair loop for class `i`; neither `while` runs longer than the class and
its snapshot are apart. -/
def recordRepairClass (draw : Nat → Nat → Nat) (i : Nat) (data : EmpiricalData Weight) :
    Option (EmpiricalData Weight) := do
  let s ← data.state[i]?
  let snapshot ← data.snapshotState[i]?
  let data ← recordBirthsUpTo i snapshot.objs.length (snapshot.objs.length - s.objs.length) data
  recordDeathsDownTo draw i snapshot.objs.length (s.objs.length - snapshot.objs.length) data

def recordRepairFrom (draw : Nat → Nat → Nat) : List Nat → EmpiricalData Weight →
    Option (EmpiricalData Weight)
  | [], data => some data
  | i :: rest, data => (recordRepairClass draw i data).bind (recordRepairFrom draw rest)

def recordRepairToSnapshotState (draw : Nat → Nat → Nat) (data : EmpiricalData Weight) :
    Option (EmpiricalData Weight) :=
  recordRepairFrom draw (List.range data.state.length) data

/-! ### From the recording to the replay -/

def restoreObjs : List (SizeState Weight) → List (SizeState Weight) →
    Option (List (SizeState Weight))
  | [], state => some state
  | _ :: _, [] => none
  | snapshot :: snapshots, s :: state => do
    let rest ← restoreObjs snapshots state
    return { s with objs := snapshot.objs } :: rest

def restoreSnapshot (data : EmpiricalData Weight) : Option (EmpiricalData Weight) := do
  let state ← restoreObjs data.snapshotState data.state
  return { data with state }

def resize {Value : Type} (values : List Value) (size : Nat) (filler : Value) : List Value :=
  values.take size ++ List.replicate (size - values.length) filler

/-- The first loop of `BuildUpdateVectors`, over the recorded trace from some position on,
with the running `death_index`. -/
def buildDeathUpdates : List (Bool × Nat) → Nat → EmpiricalData Weight →
    Option (EmpiricalData Weight)
  | [], _, data => some data
  | (true, _) :: rest, deathIndex, data => buildDeathUpdates rest deathIndex data
  | (false, i) :: rest, deathIndex, data => do
    let index ← data.deathObjIndices[deathIndex]?
    if index.born = false then
      let s ← data.state[i]?
      let p ← s.objs[index.index]?
      let deathObjects ← writeAt data.deathObjects deathIndex p
      buildDeathUpdates rest (deathIndex + 1) { data with
        state := data.state.set i
          { s with deathUpdate := s.deathUpdate ++ [⟨index.index, deathIndex⟩] }
        deathObjects }
    else
      let birthPointers ← writeAt data.birthPointers index.index (.deathObject deathIndex)
      buildDeathUpdates rest (deathIndex + 1) { data with birthPointers }

/-- The inner part of the second loop of `BuildUpdateVectors`: the objects of one class from
position `i` on. -/
def buildClassUpdates : List ObjectIndex → Nat → SizeState Weight → List Slot →
    Option (SizeState Weight × List Slot)
  | [], _, s, birthPointers => some (s, birthPointers)
  | index :: rest, i, s, birthPointers =>
    if index.born = false then
      if index.index ≠ i then
        buildClassUpdates rest (i + 1) { s with objUpdate := s.objUpdate ++ [⟨index.index, i⟩] }
          birthPointers
      else buildClassUpdates rest (i + 1) s birthPointers
    else do
      let birthPointers ← writeAt birthPointers index.index (.birthObject index.index)
      buildClassUpdates rest (i + 1)
        { s with birthUpdate := s.birthUpdate ++ [⟨index.index, i⟩] } birthPointers

/-- The second loop of `BuildUpdateVectors`, over the classes. -/
def buildObjectUpdates : List (SizeState Weight) → List Slot →
    Option (List (SizeState Weight) × List Slot)
  | [], birthPointers => some ([], birthPointers)
  | s :: state, birthPointers => do
    let (s, birthPointers) ←
      buildClassUpdates s.objsIndicesAfterRecording 0 s birthPointers
    let (state, birthPointers) ← buildObjectUpdates state birthPointers
    return (s :: state, birthPointers)

def buildUpdateVectors (data : EmpiricalData Weight) : Option (EmpiricalData Weight) := do
  let data := { data with
    birthPointers := resize data.birthPointers data.birthObjectIndex .null
    birthObjects := resize data.birthObjects data.birthObjectIndex nullptr
    deathObjects := resize data.deathObjects data.deathObjIndices.length nullptr }
  let data ← buildDeathUpdates (data.birthOrDeath.zip data.birthOrDeathSizes) 0 data
  let (state, birthPointers) ← buildObjectUpdates data.state data.birthPointers
  return { data with state, birthPointers }

/-! ### Replaying -/

/-- The store `*slot = p`. -/
def storeAt (slot : Slot) (p : Ptr) (data : EmpiricalData Weight) :
    Option (EmpiricalData Weight) :=
  match slot with
  | .null => none
  | .deathObject index => do
    let deathObjects ← writeAt data.deathObjects index p
    return { data with deathObjects }
  | .birthObject index => do
    let birthObjects ← writeAt data.birthObjects index p
    return { data with birthObjects }

def replayBirth (alloc : Allocator) (size : Nat) (data : EmpiricalData Weight)
    (calls : List Call) : Option (EmpiricalData Weight × List Call) := do
  let p := alloc calls size
  let slot ← data.birthPointers[data.birthObjectIndex]?
  let data ← storeAt slot p data
  return (data, calls ++ [.alloc size p])

def replayDeath (size : Nat) (data : EmpiricalData Weight) (calls : List Call) :
    Option (List Call) := do
  let p ← data.deathObjects[data.deathObjectIndex]?
  return calls ++ [.dealloc p size]

/-- The loop of `ReplayTrace`. The sum of the two cursors is taken in 32 bits. It grows by one
in each round, so a loop that ends at all ends within the length of the trace. -/
def replayLoop (alloc : Allocator) : Nat → EmpiricalData Weight → List Call →
    Option (EmpiricalData Weight × List Call)
  | fuel, data, calls =>
    let index := (data.birthObjectIndex + data.deathObjectIndex) % 2 ^ 32
    if index < data.birthOrDeath.length then
      match fuel with
      | 0 => none
      | fuel + 1 => do
        let doBirth ← data.birthOrDeath[index]?
        let size ← data.birthOrDeathActualSizes[index]?
        if doBirth = true then
          let (data, calls) ← replayBirth alloc size data calls
          replayLoop alloc fuel
            { data with birthObjectIndex := (data.birthObjectIndex + 1) % 2 ^ 32 } calls
        else
          let calls ← replayDeath size data calls
          replayLoop alloc fuel
            { data with deathObjectIndex := (data.deathObjectIndex + 1) % 2 ^ 32 } calls
    else some (data, calls)

def replayTrace (alloc : Allocator) (data : EmpiricalData Weight) (calls : List Call) :
    Option (EmpiricalData Weight × List Call) := do
  let (data, calls) ← replayLoop alloc data.birthOrDeath.length
    { data with birthObjectIndex := 0, deathObjectIndex := 0 } calls
  return ({ data with
    totalNumAllocated := (data.totalNumAllocated + data.numAllocatedRecorded) % 2 ^ 64
    totalBytesAllocated := (data.totalBytesAllocated + data.bytesAllocatedRecorded) % 2 ^ 64 },
    calls)

/-- One round of the loop of `PrepareNextReplay`: the three update lists of one class. -/
def prepareState (birthObjects : List Ptr) (s : SizeState Weight) (deathObjects : List Ptr) :
    Option (SizeState Weight × List Ptr) := do
  let objs ← copyWithin s.objUpdate s.objs
  let objs ← copyFrom birthObjects s.birthUpdate objs
  let deathObjects ← copyFrom objs s.deathUpdate deathObjects
  return ({ s with objs }, deathObjects)

def prepareStates (birthObjects : List Ptr) : List (SizeState Weight) → List Ptr →
    Option (List (SizeState Weight) × List Ptr)
  | [], deathObjects => some ([], deathObjects)
  | s :: state, deathObjects => do
    let (s, deathObjects) ← prepareState birthObjects s deathObjects
    let (state, deathObjects) ← prepareStates birthObjects state deathObjects
    return (s :: state, deathObjects)

def prepareNextReplay (data : EmpiricalData Weight) : Option (EmpiricalData Weight) := do
  let (state, deathObjects) ← prepareStates data.birthObjects data.state data.deathObjects
  return { data with state, deathObjects }

/-- `ReplayTrace(); PrepareNextReplay();`, a given number of times. -/
def replayRounds (alloc : Allocator) : Nat → EmpiricalData Weight → List Call →
    Option (EmpiricalData Weight × List Call)
  | 0, data, calls => some (data, calls)
  | rounds + 1, data, calls => do
    let (data, calls) ← replayRounds alloc rounds data calls
    let (data, calls) ← replayTrace alloc data calls
    let data ← prepareNextReplay data
    return (data, calls)

end Fleetbench.Tcmalloc
