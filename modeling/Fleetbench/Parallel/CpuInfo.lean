/-
This file models `CpuInfo` of `parallel/cpu.py`: how the text of a cpuinfo file
becomes a dictionary of sockets, cores and vCPUs, and what the dictionary says
about the blocks of the text.

The text is what reading the file returns. `int` is a parameter. An exception is
the value `none`.
-/

import Fleetbench.Library.Dict
import Fleetbench.Library.Traverse
import Mathlib.Data.List.ReduceOption

namespace Fleetbench.Parallel

open Library

/-! ### Text -/

/-- `str.isspace`, of one character. -/
def isSpace (c : Char) : Bool :=
  let code := c.toNat
  (9 ≤ code ∧ code ≤ 13) ∨ (28 ≤ code ∧ code ≤ 32) ∨ code = 0x85 ∨ code = 0xa0 ∨ code = 0x1680 ∨
    (0x2000 ≤ code ∧ code ≤ 0x200a) ∨ code = 0x2028 ∨ code = 0x2029 ∨ code = 0x202f ∨
    code = 0x205f ∨ code = 0x3000

/-- `str.strip`. -/
def strip (text : List Char) : List Char :=
  ((text.dropWhile isSpace).reverse.dropWhile isSpace).reverse

/-- The characters that end a line. -/
def endsLine (c : Char) : Bool :=
  let code := c.toNat
  (10 ≤ code ∧ code ≤ 13) ∨ (28 ≤ code ∧ code ≤ 30) ∨ code = 0x85 ∨ code = 0x2028 ∨ code = 0x2029

/-- `str.splitlines`. -/
def splitLines : List Char → List (List Char)
  | [] => []
  | '\r' :: '\n' :: rest => [] :: splitLines rest
  | c :: rest =>
    if endsLine c then [] :: splitLines rest
    else match splitLines rest with
      | [] => [[c]]
      | line :: lines => (c :: line) :: lines

/-- `split("\n\n")`. -/
def splitBlocks : List Char → List (List Char)
  | [] => [[]]
  | '\n' :: '\n' :: rest => [] :: splitBlocks rest
  | c :: rest =>
    match splitBlocks rest with
    | [] => [[c]]
    | block :: blocks => (c :: block) :: blocks

/-! ### Blocks -/

def relevantKeys : List String := ["processor", "physical id", "core id"]

/-- The variables of the loop of `_AddCore`. -/
structure CoreFields where
  physicalId : Option Int := none
  vcpu : Option Int := none
  coreId : Option Int := none

/-- One round of this loop. -/
def readLine (int : String → Option Int) (fields : CoreFields) (line : List Char) :
    Option CoreFields :=
  if relevantKeys.all fun key => ¬ key.toList <+: line then some fields
  else match (strip line).splitOn ':' with
    | [key, value] => do
      let key := String.ofList (strip key)
      let value ← int (String.ofList (strip value))
      if key = "processor" then return { fields with vcpu := some value }
      else if key = "physical id" then return { fields with physicalId := some value }
      else if key = "core id" then return { fields with coreId := some value }
      else return fields
    | _ => none

/-- What a complete block says. -/
structure Core where
  physicalId : Int
  coreId : Int
  vcpu : Int
  deriving DecidableEq, Repr

/-- What a block says, if it is complete. -/
def readCore (int : String → Option Int) (fileContent : List Char) : Option (Option Core) :=
  ((splitLines fileContent).foldlM (readLine int) {}).map fun fields =>
    match fields with
    | ⟨some physicalId, some vcpu, some coreId⟩ => some ⟨physicalId, coreId, vcpu⟩
    | _ => none

/-- `self.cpu_info`: sockets, cores of a socket, vCPUs of a core. -/
abbrev Sockets : Type := Dict Int (Dict Int (List Int))

/-- `setdefault` of the socket and of the core, and then `append`. -/
def Sockets.append (sockets : Sockets) (core : Core) : Sockets :=
  let cores := (sockets.get? core.physicalId).getD .empty
  sockets.set core.physicalId (cores.addTo (core.coreId, core.vcpu))

/-- `_AddCore` -/
def addCore (int : String → Option Int) (availableCpus : List Int) (sockets : Sockets)
    (fileContent : List Char) : Option Sockets := do
  match ← readCore int fileContent with
  | none => return sockets
  | some core =>
    if core.vcpu ∉ availableCpus then return sockets
    else return sockets.append core

/-- `_CollectCpuInfo` -/
def collectCpuInfo (int : String → Option Int) (availableCpus : List Int) (fileContent : String) :
    Option Sockets :=
  (splitBlocks fileContent.toList).foldlM
    (fun sockets block => addCore int availableCpus sockets (strip block)) .empty

/-! ### Questions -/

namespace Sockets

variable (sockets : Sockets)

def getSocketsCount : Nat := sockets.entries.length

def getCoresForSocket (socketId : Int) : List Int :=
  match sockets.get? socketId with
  | none => []
  | some cores => cores.keys

def getVCPUPairsForCore (socketId coreId : Int) : List Int :=
  match sockets.get? socketId with
  | none => []
  | some cores => (cores.get? coreId).getD []

def isUnusedCoreID (coreId : Int) : Bool :=
  sockets.values.all fun cores => coreId ∉ cores.keys

end Sockets

/-! ### What is recorded -/

/-- The complete blocks of available vCPUs, in order. -/
def availableCores (int : String → Option Int) (availableCpus : List Int) (fileContent : String) :
    Option (List Core) :=
  ((splitBlocks fileContent.toList).mapM fun block => readCore int (strip block)).map fun cores =>
    cores.reduceOption.filter fun core => core.vcpu ∈ availableCpus

/-- The dictionary is that of these blocks. -/
structure Sockets.Records (sockets : Sockets) (cores : List Core) : Prop where
  distinct : ∀ socketId, (sockets.getCoresForSocket socketId).Nodup
  mem_cores : ∀ socketId coreId, coreId ∈ sockets.getCoresForSocket socketId ↔
    ∃ core ∈ cores, core.physicalId = socketId ∧ core.coreId = coreId
  pairs : ∀ socketId coreId, sockets.getVCPUPairsForCore socketId coreId =
    (cores.filter fun core => core.physicalId = socketId ∧ core.coreId = coreId).map (·.vcpu)
  unused : ∀ coreId, sockets.isUnusedCoreID coreId = true →
    ∀ socketId, sockets.getVCPUPairsForCore socketId coreId = []

theorem append_eq_adjust : Sockets.append =
    Dict.adjust Core.physicalId
      (fun cores core => Dict.addTo cores (core.coreId, core.vcpu)) Dict.empty := rfl

/-- The cores of a socket are grouped like the blocks of the socket. -/
theorem getD_foldl_append (cores : List Core) (socketId : Int) :
    ((cores.foldl Sockets.append .empty).get? socketId).getD .empty =
      .group ((cores.filter fun core => core.physicalId = socketId).map fun core =>
        (core.coreId, core.vcpu)) := by
  rw [append_eq_adjust, Dict.getD_foldl_adjust, Dict.group, List.foldl_map]
  rfl

section

variable (sockets : Sockets)

theorem getCoresForSocket_eq (socketId : Int) :
    sockets.getCoresForSocket socketId = ((sockets.get? socketId).getD .empty).keys := by
  rw [Sockets.getCoresForSocket]
  cases sockets.get? socketId <;> rfl

theorem getVCPUPairsForCore_eq (socketId coreId : Int) :
    sockets.getVCPUPairsForCore socketId coreId =
      (((sockets.get? socketId).getD .empty).get? coreId).getD [] := by
  rw [Sockets.getVCPUPairsForCore]
  cases sockets.get? socketId <;> rfl

theorem pairs_of_unused {coreId : Int} (unused : sockets.isUnusedCoreID coreId = true)
    (socketId : Int) : sockets.getVCPUPairsForCore socketId coreId = [] := by
  rw [Sockets.getVCPUPairsForCore]
  cases found : sockets.get? socketId with
  | none => rfl
  | some cores =>
    have member := List.mem_map_of_mem (f := Prod.snd) (Dict.get?_eq_some_iff.mp found)
    have missing := of_decide_eq_true (List.all_eq_true.mp unused cores member)
    exact congrArg (Option.getD · []) (Dict.get?_eq_none_iff.mpr missing)

end

theorem foldl_append_records (cores : List Core) :
    (cores.foldl Sockets.append .empty).Records cores := by
  have filtered (socketId coreId : Int) : ∀ core : Core,
      (decide ((core.coreId, core.vcpu).1 = coreId) && decide (core.physicalId = socketId)) =
        decide (core.physicalId = socketId ∧ core.coreId = coreId) := by
    intro core
    rw [Bool.and_comm, Bool.decide_and]
  refine ⟨fun socketId => ?_, fun socketId coreId => ?_, fun socketId coreId => ?_,
    fun coreId unused => pairs_of_unused _ unused⟩
  · rw [getCoresForSocket_eq]
    exact Dict.distinct _
  · rw [getCoresForSocket_eq, getD_foldl_append, Dict.mem_keys_group, List.map_map]
    simp [and_assoc]
  · rw [getVCPUPairsForCore_eq, getD_foldl_append, Dict.getD_group, List.filter_map,
      List.filter_filter, List.map_map]
    exact congrArg (List.map _) (List.filter_congr fun core _ => filtered socketId coreId core)

theorem mem_availableCores {int : String → Option Int} {availableCpus : List Int}
    {fileContent : String} {cores : List Core}
    (listed : availableCores int availableCpus fileContent = some cores) :
    ∀ core ∈ cores, core.vcpu ∈ availableCpus := by
  obtain ⟨blocks, -, rfl⟩ := Option.map_eq_some_iff.mp listed
  exact fun core member => of_decide_eq_true (List.mem_filter.mp member).2

/-- Reading a file fails, or records the complete blocks of available vCPUs. -/
theorem collectCpuInfo_eq (int : String → Option Int) (availableCpus : List Int)
    (fileContent : String) :
    collectCpuInfo int availableCpus fileContent =
      (availableCores int availableCpus fileContent).map fun cores =>
        cores.foldl Sockets.append .empty := by
  have steps (sockets : Sockets) (block : List Char) :
      addCore int availableCpus sockets (strip block) =
        (readCore int (strip block)).map fun core =>
          ((core.toList).filter fun core => core.vcpu ∈ availableCpus).foldl Sockets.append
            sockets := by
    rw [addCore]
    cases readCore int (strip block) with
    | none => rfl
    | some core =>
      cases core with
      | none => rfl
      | some core =>
        by_cases isAvailable : core.vcpu ∈ availableCpus
        · simp [isAvailable]
        · simp [isAvailable]
  rw [collectCpuInfo, foldlM_eq_map_foldl steps, availableCores, Option.map_map]
  refine congrArg (Option.map · _) (funext fun blocks => ?_)
  generalize Dict.empty = start
  induction blocks generalizing start with
  | nil => rfl
  | cons first rest inductionHypothesis =>
    rw [List.foldl_cons, inductionHypothesis]
    cases first with
    | none => rfl
    | some core =>
      by_cases isAvailable : core.vcpu ∈ availableCpus
      · simp [List.reduceOption_cons_of_some, isAvailable]
      · simp [List.reduceOption_cons_of_some, isAvailable]

end Fleetbench.Parallel
