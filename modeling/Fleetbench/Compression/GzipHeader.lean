/-
This file models `GZipHeader`, the parser of gzip headers. `ReadMore` takes the
next installment of bytes and walks through the fields of the header; most
states read one byte, some read as many bytes as there are, and some only look
whether their field is present.
-/

import Mathlib.Data.List.Basic

namespace Fleetbench.Compression

/-! ### The parser -/

namespace GZipHeader

inductive State where
  | inHeaderId1
  | inHeaderId2
  | inHeaderCm
  | inHeaderFlg
  | inHeaderMtimeByte0
  | inHeaderMtimeByte1
  | inHeaderMtimeByte2
  | inHeaderMtimeByte3
  | inHeaderXfl
  | inHeaderOs
  | inXlenByte0
  | inXlenByte1
  | inFextra
  | inFname
  | inFcomment
  | inFhcrcByte0
  | inFhcrcByte1
  | inDone
  deriving DecidableEq, Repr

/-- `state_++`. -/
def State.next : State → State
  | .inHeaderId1 => .inHeaderId2
  | .inHeaderId2 => .inHeaderCm
  | .inHeaderCm => .inHeaderFlg
  | .inHeaderFlg => .inHeaderMtimeByte0
  | .inHeaderMtimeByte0 => .inHeaderMtimeByte1
  | .inHeaderMtimeByte1 => .inHeaderMtimeByte2
  | .inHeaderMtimeByte2 => .inHeaderMtimeByte3
  | .inHeaderMtimeByte3 => .inHeaderXfl
  | .inHeaderXfl => .inHeaderOs
  | .inHeaderOs => .inXlenByte0
  | .inXlenByte0 => .inXlenByte1
  | .inXlenByte1 => .inFextra
  | .inFextra => .inFname
  | .inFname => .inFcomment
  | .inFcomment => .inFhcrcByte0
  | .inFhcrcByte0 => .inFhcrcByte1
  | .inFhcrcByte1 => .inDone
  | .inDone => .inDone

/-- The value of the enumerator. -/
def State.value : State → Nat
  | .inHeaderId1 => 0
  | .inHeaderId2 => 1
  | .inHeaderCm => 2
  | .inHeaderFlg => 3
  | .inHeaderMtimeByte0 => 4
  | .inHeaderMtimeByte1 => 5
  | .inHeaderMtimeByte2 => 6
  | .inHeaderMtimeByte3 => 7
  | .inHeaderXfl => 8
  | .inHeaderOs => 9
  | .inXlenByte0 => 10
  | .inXlenByte1 => 11
  | .inFextra => 12
  | .inFname => 13
  | .inFcomment => 14
  | .inFhcrcByte0 => 15
  | .inFhcrcByte1 => 16
  | .inDone => 17

def flagFhcrc : UInt8 := 0x02

def flagFextra : UInt8 := 0x04

def flagFname : UInt8 := 0x08

def flagFcomment : UInt8 := 0x10

/-- The flags that `ReadMore` keeps. -/
def knownFlags : UInt8 := flagFhcrc ||| flagFextra ||| flagFname ||| flagFcomment

def magic0 : UInt8 := 0x1f

def magic1 : UInt8 := 0x8b

/-- `Z_DEFLATED`. -/
def deflated : UInt8 := 8

end GZipHeader

open GZipHeader in
structure GZipHeader where
  state : State
  flags : UInt8
  extraLength : UInt16
  deriving DecidableEq, Repr

namespace GZipHeader

/-- `Reset()`, which is also what the constructor does. -/
def fresh : GZipHeader where
  state := .inHeaderId1
  flags := 0
  extraLength := 0

/-- What `ReadMore` returns; a complete header comes with the bytes from `header_end` on. -/
inductive Status where
  | incompleteHeader
  | completeHeader (beyond : List UInt8)
  | invalidHeader
  deriving DecidableEq, Repr

/-- One pass through the body of the loop either returns or goes on with the bytes that are
left. -/
inductive Iteration where
  | returned (status : Status)
  | again (header : GZipHeader) (rest : List UInt8)

/-- `pos++; state_++`. -/
def advance (header : GZipHeader) (rest : List UInt8) : Iteration :=
  .again { header with state := header.state.next } rest

/-- The case `IN_FEXTRA`, which `IN_XLEN_BYTE_1` falls through to. -/
def readExtra (header : GZipHeader) (rest : List UInt8) : Iteration :=
  let numExtraBytes := min header.extraLength.toNat rest.length
  let extraLength := header.extraLength - UInt16.ofNat numExtraBytes
  if extraLength = 0 then
    .again ⟨.inFname, header.flags &&& ~~~flagFextra, extraLength⟩ (rest.drop numExtraBytes)
  else
    .again { header with extraLength := extraLength } (rest.drop numExtraBytes)

/-- The cases `IN_FNAME` and `IN_FCOMMENT`: a field that ends with a zero byte, if its flag is
set, and the state behind it. -/
def readString (flag : UInt8) (behind : State) (header : GZipHeader) (rest : List UInt8) :
    Iteration :=
  if header.flags &&& flag = 0 then .again { header with state := behind } rest
  else
    match rest.dropWhile (· ≠ 0) with
    | _ :: beyond =>
      .again { header with flags := header.flags &&& ~~~flag, state := behind } beyond
    | [] => .again header []

/-- The body of the loop of `ReadMore`, for the byte at `pos` and the bytes behind it. -/
def iterate (header : GZipHeader) (byte : UInt8) (rest : List UInt8) : Iteration :=
  match header.state with
  | .inHeaderId1 =>
    if byte ≠ magic0 then .returned .invalidHeader else header.advance rest
  | .inHeaderId2 =>
    if byte ≠ magic1 then .returned .invalidHeader else header.advance rest
  | .inHeaderCm =>
    if byte ≠ deflated then .returned .invalidHeader else header.advance rest
  | .inHeaderFlg => { header with flags := byte &&& knownFlags }.advance rest
  | .inHeaderMtimeByte0 | .inHeaderMtimeByte1 | .inHeaderMtimeByte2 | .inHeaderMtimeByte3 =>
    header.advance rest
  | .inHeaderXfl => header.advance rest
  | .inHeaderOs => header.advance rest
  | .inXlenByte0 =>
    if header.flags &&& flagFextra = 0 then
      .again { header with state := .inFname } (byte :: rest)
    else { header with extraLength := byte.toUInt16 }.advance rest
  | .inXlenByte1 =>
    { header with
      extraLength := header.extraLength + (byte.toUInt16 <<< 8)
      state := .inFextra }.readExtra rest
  | .inFextra => header.readExtra (byte :: rest)
  | .inFname => header.readString flagFname .inFcomment (byte :: rest)
  | .inFcomment => header.readString flagFcomment .inFhcrcByte0 (byte :: rest)
  | .inFhcrcByte0 =>
    if header.flags &&& flagFhcrc = 0 then .again { header with state := .inDone } (byte :: rest)
    else header.advance rest
  | .inFhcrcByte1 => { header with flags := header.flags &&& ~~~flagFhcrc }.advance rest
  | .inDone => .returned (.completeHeader (byte :: rest))

/-- How much work is left: every iteration reads a byte or moves to a later state. -/
def work (header : GZipHeader) (rest : List UInt8) : Nat :=
  18 * rest.length + (17 - header.state.value)

theorem work_lt_of_length {before after : GZipHeader} {longer shorter : List UInt8}
    (read : shorter.length < longer.length) : after.work shorter < before.work longer := by
  unfold work
  omega

theorem work_lt_of_value {before after : GZipHeader} {rest : List UInt8}
    (later : before.state.value < after.state.value) (bounded : after.state.value ≤ 17) :
    after.work rest < before.work rest := by
  unfold work
  omega

theorem readExtra_work {header after : GZipHeader} {rest left : List UInt8} 
    (read : header.readExtra rest = .again after left) :
    left.length ≤ rest.length ∧
      (header.state = .inFextra → rest ≠ [] → after.work left < header.work rest) := by
  unfold readExtra at read
  simp only at read
  split at read
  · rename_i used
    obtain ⟨rfl, rfl⟩ : _ = after ∧ _ = left := by simpa only [Iteration.again.injEq] using read
    refine ⟨by rw [List.length_drop]; omega, fun inExtra present => ?_⟩
    by_cases none : min header.extraLength.toNat rest.length = 0
    · rw [none, List.drop_zero]
      exact work_lt_of_value (by simp [inExtra, State.value]) (by simp [State.value])
    · exact work_lt_of_length (by rw [List.length_drop]; omega)
  · rename_i unused
    obtain ⟨rfl, rfl⟩ : _ = after ∧ _ = left := by simpa only [Iteration.again.injEq] using read
    refine ⟨by rw [List.length_drop]; omega, fun _ present => work_lt_of_length ?_⟩
    have some : 0 < rest.length := List.length_pos_iff.mpr present
    have pending : header.extraLength.toNat ≠ 0 := by
      intro zero
      refine unused ?_
      rw [zero, Nat.zero_min]
      exact UInt16.toNat_inj.mp (by rw [UInt16.toNat_sub]; simp [zero])
    rw [List.length_drop]
    omega

theorem length_dropWhile_le (bytes : List UInt8) (passed : UInt8 → Bool) :
    (bytes.dropWhile passed).length ≤ bytes.length :=
  (List.dropWhile_sublist passed).length_le

theorem readString_work {flag : UInt8} {behind : State} {header after : GZipHeader}
    {rest left : List UInt8} (present : rest ≠ []) (later : header.state.value < behind.value)
    (bounded : behind.value ≤ 17) (read : header.readString flag behind rest = .again after left) :
    after.work left < header.work rest := by
  unfold readString at read
  split at read
  · obtain ⟨rfl, rfl⟩ : _ = after ∧ _ = left := by simpa only [Iteration.again.injEq] using read
    exact work_lt_of_value later bounded
  · have shorter := length_dropWhile_le rest (· ≠ 0)
    have some : 0 < rest.length := List.length_pos_iff.mpr present
    split at read
    · rename_i found
      obtain ⟨rfl, rfl⟩ : _ = after ∧ _ = left := by simpa only [Iteration.again.injEq] using read
      rw [found, List.length_cons] at shorter
      exact work_lt_of_length shorter
    · obtain ⟨rfl, rfl⟩ : _ = after ∧ _ = left := by simpa only [Iteration.again.injEq] using read
      exact work_lt_of_length some

theorem advance_work {header after : GZipHeader} {byte : UInt8} {rest left : List UInt8}
    (before : GZipHeader) (read : header.advance rest = .again after left) :
    after.work left < before.work (byte :: rest) := by
  obtain ⟨rfl, rfl⟩ : _ = after ∧ _ = left := by
    simpa only [advance, Iteration.again.injEq] using read
  exact work_lt_of_length (by rw [List.length_cons]; omega)

theorem iterate_work {header after : GZipHeader} {byte : UInt8} {rest left : List UInt8}
    (read : header.iterate byte rest = .again after left) :
    after.work left < header.work (byte :: rest) := by
  have skipped {behind : GZipHeader} (later : header.state.value < behind.state.value)
      (bounded : behind.state.value ≤ 17)
      (read : Iteration.again behind (byte :: rest) = .again after left) :
      after.work left < header.work (byte :: rest) := by
    obtain ⟨rfl, rfl⟩ : _ = after ∧ _ = left := by simpa only [Iteration.again.injEq] using read
    exact work_lt_of_value later bounded
  unfold iterate at read
  split at read
  case h_1 | h_2 | h_3 =>
    split at read
    · cases read
    · exact advance_work header read
  case h_11 state | h_16 state =>
    split at read
    · exact skipped (by simp [state, State.value]) (by simp [State.value]) read
    · exact advance_work header read
  case h_12 =>
    have shorter := (readExtra_work read).1
    exact work_lt_of_length (by rw [List.length_cons]; omega)
  case h_13 state => exact (readExtra_work read).2 state (List.cons_ne_nil _ _)
  case h_14 state =>
    exact readString_work (List.cons_ne_nil _ _) (by simp [state, State.value]) (by decide) read
  case h_15 state =>
    exact readString_work (List.cons_ne_nil _ _) (by simp [state, State.value]) (by decide) read
  case h_18 => cases read
  all_goals exact advance_work header read

/-- The loop of `ReadMore` and the test behind it. -/
def readLoop (header : GZipHeader) (rest : List UInt8) : GZipHeader × Status :=
  match rest with
  | [] =>
    if State.inHeaderOs.value < header.state.value ∧ header.flags = 0 then
      (header, .completeHeader [])
    else (header, .incompleteHeader)
  | byte :: tail =>
    match _ : header.iterate byte tail with
    | .returned status => (header, status)
    | .again after left => readLoop after left
termination_by header.work rest
decreasing_by exact iterate_work ‹_›

/-- `ReadMore`, which aborts on a negative length. -/
def readMore (header : GZipHeader) (inbuf : List UInt8) (inbufLen : Int) :
    Option (GZipHeader × Status) :=
  if inbufLen < 0 then none else some (header.readLoop (inbuf.take inbufLen.toNat))

end GZipHeader

end Fleetbench.Compression
