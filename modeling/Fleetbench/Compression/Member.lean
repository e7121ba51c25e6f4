/-
This file says what a gzip member is: a header that `GZipHeader` accepts, data
in the raw deflate format and a footer with the checksum and the length of what
the data says. It also says how far some bytes have come through a member, in a
way that does not mention the object that reads them.
-/

import Fleetbench.Compression.HeaderChunks
import Fleetbench.Compression.Zlib
import Fleetbench.Library.LittleEndian

namespace Fleetbench.Compression

open Library

variable {Inflater Deflater State : Type}

/-! ### Members -/

/-- `ReadMore` finds a complete header, which ends where the bytes end. -/
def GZipHeader.Accepts (header : List UInt8) : Prop :=
  (GZipHeader.fresh.readLoop header).2 = .completeHeader []

/-- The checksum of the output and its length, each in four bytes. -/
def footerOf (zlib : Zlib Inflater Deflater) (output : List UInt8) : List UInt8 :=
  littleEndian 4 (zlib.crc32 0 output).toNat ++ littleEndian 4 (output.length % 2 ^ 32)

/-- The bytes are a well-formed gzip member that decodes to the output. -/
def IsMember (zlib : Zlib Inflater Deflater) (format : Decoder UInt8 UInt8 State)
    (bytes output : List UInt8) : Prop :=
  ∃ header data footer, bytes = header ++ data ++ footer ∧ GZipHeader.Accepts header ∧
    format.Decodes data output ∧ footer = footerOf zlib output

theorem GZipHeader.accepts_iff {header : List UInt8} :
    GZipHeader.Accepts header ↔ GZipHeader.decoder.Decodes header [] := by
  rw [Decoder.Decodes, GZipHeader.Accepts]
  show _ ↔ GZipHeader.decoder.feed GZipHeader.fresh header = _
  rw [← GZipHeader.outcome_readLoop GZipHeader.pending_fresh]
  obtain ⟨after, status⟩ := GZipHeader.fresh.readLoop header
  cases status with
  | incompleteHeader => simp [GZipHeader.outcome]
  | completeHeader beyond => simp [GZipHeader.outcome]
  | invalidHeader => simp [GZipHeader.outcome]

theorem length_footerOf (zlib : Zlib Inflater Deflater) (output : List UInt8) :
    (footerOf zlib output).length = 8 := by
  rw [footerOf, List.length_append, length_littleEndian, length_littleEndian]

/-! ### Positions in a member -/

/-- How far some bytes have come: inside the header, inside the data, inside the footer, or they
do not begin a member. -/
inductive Phase (State : Type) where
  | header (parser : GZipHeader)
  | body (state : State) (output : List UInt8)
  | footer (output kept : List UInt8)
  | refused (output : List UInt8)

namespace Phase

def start : Phase State :=
  header .fresh

def output : Phase State → List UInt8
  | header _ => []
  | body _ output => output
  | footer output _ => output
  | refused output => output

def readBody (format : Decoder UInt8 UInt8 State) (state : State) (earlier bytes : List UInt8) :
    Phase State :=
  match format.feed state bytes with
  | .more next output => body next (earlier ++ output)
  | .last output unread =>
    if unread.length ≤ 8 then footer (earlier ++ output) unread else refused (earlier ++ output)
  | .bad output => refused (earlier ++ output)

def read (format : Decoder UInt8 UInt8 State) : Phase State → List UInt8 → Phase State
  | header parser, bytes =>
    match GZipHeader.decoder.feed parser bytes with
    | .more next _ => header next
    | .last _ beyond => readBody format format.start [] beyond
    | .bad _ => refused []
  | body state output, bytes => readBody format state output bytes
  | footer output kept, bytes =>
    if kept.length + bytes.length ≤ 8 then footer output (kept ++ bytes) else refused output
  | refused output, _ => refused output

variable (format : Decoder UInt8 UInt8 State)

theorem output_readBody (state : State) (earlier bytes : List UInt8) :
    (readBody format state earlier bytes).output =
      earlier ++ (format.feed state bytes).output := by
  rw [readBody]
  cases format.feed state bytes with
  | more next output => rfl
  | last output unread =>
    simp only
    split <;> rfl
  | bad output => rfl

theorem readBody_append (state : State) (earlier front back : List UInt8) :
    readBody format state earlier (front ++ back) =
      (readBody format state earlier front).read format back := by
  rw [readBody, readBody, Decoder.feed_append]
  cases format.feed state front with
  | more next output =>
    show (match (format.feed next back).after output with
      | .more next output => body next (earlier ++ output)
      | .last output unread =>
        if unread.length ≤ 8 then footer (earlier ++ output) unread
        else refused (earlier ++ output)
      | .bad output => refused (earlier ++ output)) = readBody format next (earlier ++ output) back
    rw [readBody]
    cases format.feed next back <;> simp only [Fed.after, List.append_assoc]
  | last output unread =>
    show (if (unread ++ back).length ≤ 8 then footer (earlier ++ output) (unread ++ back)
      else refused (earlier ++ output)) = _
    rw [List.length_append]
    by_cases short : unread.length ≤ 8
    · simp only [if_pos short]
      rfl
    · simp only [if_neg short]
      rw [if_neg (by omega)]
      rfl
  | bad output => rfl

/-- Reading does not depend on where the bytes are cut. -/
theorem read_append (phase : Phase State) (front back : List UInt8) :
    phase.read format (front ++ back) = (phase.read format front).read format back := by
  cases phase with
  | header parser =>
    rw [read, read, Decoder.feed_append]
    cases GZipHeader.decoder.feed parser front with
    | more next output =>
      simp only [Decoder.resume]
      rw [read]
      cases GZipHeader.decoder.feed next back <;> rfl
    | last output beyond => exact readBody_append format format.start [] beyond back
    | bad output => rfl
  | body state output => exact readBody_append format state output front back
  | footer output kept =>
    rw [read, read, List.length_append]
    by_cases short : kept.length + front.length ≤ 8
    · rw [if_pos short, read, List.length_append, List.append_assoc, Nat.add_assoc]
    · rw [if_neg short, if_neg (by omega)]
      rfl
  | refused output => rfl

/-- More bytes only add to the output. -/
theorem exists_output_read (phase : Phase State) (bytes : List UInt8) :
    ∃ more, (phase.read format bytes).output = phase.output ++ more := by
  cases phase with
  | header parser => exact ⟨_, (List.nil_append _).symm⟩
  | body state output => exact ⟨_, output_readBody format state output bytes⟩
  | footer output kept =>
    refine ⟨[], ?_⟩
    rw [read, List.append_nil]
    split <;> rfl
  | refused output => exact ⟨[], (List.append_nil _).symm⟩

/-- Behind a complete header the data begins. -/
theorem read_start_append {header : List UInt8} (accepted : GZipHeader.Accepts header)
    (rest : List UInt8) :
    start.read format (header ++ rest) = readBody format format.start [] rest := by
  have headed := GZipHeader.decoder.feed_word_append (GZipHeader.accepts_iff.mp accepted) rest
  rw [start, read]
  show (match GZipHeader.decoder.feed GZipHeader.decoder.start _ with
    | .more next _ => Phase.header next
    | .last _ beyond => readBody format format.start [] beyond
    | .bad _ => refused []) = _
  rw [headed]

/-- A member is what leads to its own footer. -/
theorem isMember_iff (zlib : Zlib Inflater Deflater) {bytes output : List UInt8} :
    IsMember zlib format bytes output ↔
      start.read format bytes = footer output (footerOf zlib output) := by
  constructor
  · rintro ⟨header, data, _, rfl, accepted, decodes, rfl⟩
    rw [List.append_assoc, read_start_append format accepted]
    rw [readBody, format.feed_word_append decodes]
    simp only
    rw [if_pos (Nat.le_of_eq (length_footerOf zlib output)), List.nil_append]
  · intro arrived
    rw [start, read] at arrived
    cases headed : GZipHeader.decoder.feed .fresh bytes with
    | more next none => rw [headed] at arrived; cases arrived
    | bad none => rw [headed] at arrived; cases arrived
    | last none beyond =>
      rw [headed] at arrived
      simp only at arrived
      rw [readBody] at arrived
      cases decoded : format.feed format.start beyond with
      | more next output => rw [decoded] at arrived; cases arrived
      | bad output => rw [decoded] at arrived; cases arrived
      | last said unread =>
        rw [decoded] at arrived
        simp only [List.nil_append] at arrived
        split at arrived
        · obtain ⟨rfl, rfl⟩ : said = output ∧ unread = footerOf zlib output := by
            simpa only [footer.injEq] using arrived
          obtain ⟨header, rfl, accepted⟩ := GZipHeader.decoder.feed_eq_last_iff.mp headed
          obtain ⟨data, rfl, decodes⟩ := format.feed_eq_last_iff.mp decoded
          obtain rfl : none = [] := Subsingleton.elim _ _
          exact ⟨header, data, _, (List.append_assoc _ _ _).symm,
            GZipHeader.accepts_iff.mpr accepted, decodes, rfl⟩
        · cases arrived

end Phase

end Fleetbench.Compression
