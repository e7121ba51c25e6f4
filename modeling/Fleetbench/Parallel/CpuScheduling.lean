/-
This file models `CpuSchedulingMode` of `parallel/cpu.py`, and proves when the
loop of the balanced mode ends. The mode looks for sockets that are numbered
from zero, so it may wait for vCPUs of other sockets.
-/

import Fleetbench.Parallel.CpuInfo
import Fleetbench.Library.Fill
import Mathlib.Data.List.Sort
import Mathlib.Data.Rat.Floor
import Mathlib.Algebra.Order.BigOperators.Group.List

namespace Fleetbench.Parallel

open Library

/-! ### The modes -/

inductive HyperthreadingMode where
  | disable
  | dynamic
  | skewed
  | balanced
  deriving DecidableEq, Repr

/-- `values[:stop]`. -/
def slice {Item : Type} (values : List Item) (stop : Int) : List Item :=
  values.take (if 0 ≤ stop then stop else values.length + stop).toNat

/-- `_GetRequiredVCPUs`; `times` is the product of a number and a float, which Python rounds to a
float. It has no value if it overflows: then the code raises. -/
def getRequiredVCPUs (times : Int → ℚ → Option ℚ) (availableCpus : List Int)
    (targetUtilization : ℚ) (requiredCpusNum : Int) : Option Int :=
  (times requiredCpusNum targetUtilization).map fun product =>
    let vcpus := ⌈product⌉
    let vcpus := vcpus + if requiredCpusNum % 2 ≠ 0 then 3 else 2
    min availableCpus.length vcpus

structure CpuSchedulingMode where
  numCpus : Int
  requiredCpusNum : Int
  availableCpus : List Int
  targetUtilization : ℚ
  hyperthreadingMode : HyperthreadingMode
  cpuInfo : Sockets

/-- `CpuSchedulingMode.__init__`; `availableCpus` is the list of the set `Available()`, and
`cpuInfoFile` the text of the file. -/
def CpuSchedulingMode.init (int : String → Option Int) (times : Int → ℚ → Option ℚ)
    (availableCpus : List Int) (cpuInfoFile : String) (numCpus : Int) (utilization : ℚ)
    (hyperthreadingMode : HyperthreadingMode) : Option CpuSchedulingMode :=
  let pinned := hyperthreadingMode = .skewed ∨ hyperthreadingMode = .balanced
  (if pinned then getRequiredVCPUs times availableCpus utilization numCpus
    else some numCpus).bind fun selected =>
    (collectCpuInfo int availableCpus cpuInfoFile).map fun cpuInfo =>
      { numCpus := selected
        requiredCpusNum := numCpus
        availableCpus
        targetUtilization := if pinned then 1 else utilization
        hyperthreadingMode
        cpuInfo }

/-! ### The selections -/

/-- `range(self.cpu_info.GetSocketsCount())`. -/
def Sockets.socketIds (cpuInfo : Sockets) : List Int :=
  (List.range cpuInfo.getSocketsCount).map Int.ofNat

namespace CpuSchedulingMode

variable (scheduling : CpuSchedulingMode)

/-- `_GetCPUsWithDisabledSMT` -/
def getCPUsWithDisabledSMT : List Int :=
  let selectedCpus := scheduling.cpuInfo.socketIds.flatMap fun socketId =>
    (scheduling.cpuInfo.getCoresForSocket socketId).flatMap fun coreId =>
      (scheduling.cpuInfo.getVCPUPairsForCore socketId coreId).take 1
  if scheduling.numCpus > selectedCpus.length then selectedCpus
  else slice selectedCpus scheduling.numCpus

/-- `_GetCPUsWithSkewedScheduling` -/
def getCPUsWithSkewedScheduling : List Int :=
  let selectedCpus := scheduling.cpuInfo.socketIds.flatMap fun socketId =>
    (scheduling.cpuInfo.getCoresForSocket socketId).flatMap fun coreId =>
      scheduling.cpuInfo.getVCPUPairsForCore socketId coreId
  slice selectedCpus scheduling.numCpus

/-- The `for` loop of `_GetCPUsWithBalancedScheduling`, which may return from it. -/
def balancedSockets (coreId : Nat) :
    List Int → List Int → Round (List Int) (List Int)
  | [], selectedCpus => .again selectedCpus
  | socketId :: rest, selectedCpus =>
    let selectedCpus := selectedCpus ++ scheduling.cpuInfo.getVCPUPairsForCore socketId coreId
    if selectedCpus.length ≥ scheduling.numCpus then .stop selectedCpus
    else balancedSockets coreId rest selectedCpus

/-- One round of its `while` loop. -/
def balancedRound : Nat × List Int → Round (Nat × List Int) (List Int)
  | (coreId, selectedCpus) =>
    if selectedCpus.length < scheduling.numCpus then
      if scheduling.cpuInfo.isUnusedCoreID coreId then .again (coreId + 1, selectedCpus)
      else
        match scheduling.balancedSockets coreId scheduling.cpuInfo.socketIds selectedCpus with
        | .again selectedCpus => .again (coreId + 1, selectedCpus)
        | .stop selectedCpus => .stop selectedCpus
    else .stop selectedCpus

/-- `_GetCPUsWithBalancedScheduling`, for a number of rounds. -/
def getCPUsWithBalancedScheduling (fuel : Nat) : Option (List Int) :=
  loop scheduling.balancedRound fuel (0, [])

/-- `SelectCPURangeAndSetUtilization`. No mode is invalid. -/
def selectCPURangeAndSetUtilization (fuel : Nat) : Option (List Int × ℚ) :=
  match scheduling.hyperthreadingMode with
  | .dynamic =>
    some (slice scheduling.availableCpus scheduling.numCpus, scheduling.targetUtilization)
  | .disable =>
    some (scheduling.getCPUsWithDisabledSMT.insertionSort (· ≤ ·), scheduling.targetUtilization)
  | .skewed =>
    some (scheduling.getCPUsWithSkewedScheduling.insertionSort (· ≤ ·),
      scheduling.targetUtilization)
  | .balanced =>
    (scheduling.getCPUsWithBalancedScheduling fuel).map fun cpusList =>
      (cpusList.insertionSort (· ≤ ·), scheduling.targetUtilization)

end CpuSchedulingMode

/-! ### Where the vCPUs are taken -/

namespace Sockets

variable (cpuInfo : Sockets)

/-- The vCPUs of some cores; a core is given by its socket and its own id. -/
def vcpusAt (places : List (Int × Int)) : List Int :=
  places.flatMap fun place => cpuInfo.getVCPUPairsForCore place.1 place.2

/-- One socket after the other. -/
def placesBySocket : List (Int × Int) :=
  cpuInfo.socketIds.flatMap fun socketId =>
    (cpuInfo.getCoresForSocket socketId).map fun coreId => (socketId, coreId)

/-- One core id after the other, on all sockets. -/
def placesByCore (count : Nat) : List (Int × Int) :=
  (List.range count).flatMap fun coreId : Nat =>
    cpuInfo.socketIds.map fun socketId => (socketId, (coreId : Int))

/-- What the balanced mode adds in one round. -/
def balancedStage (coreId : Nat) : List (List Int) :=
  cpuInfo.socketIds.map fun socketId => cpuInfo.getVCPUPairsForCore socketId coreId

theorem flatMap_placesBySocket (choose : Int → Int → List Int) :
    (cpuInfo.placesBySocket.flatMap fun place => choose place.1 place.2) =
      cpuInfo.socketIds.flatMap fun socketId =>
        (cpuInfo.getCoresForSocket socketId).flatMap fun coreId => choose socketId coreId := by
  simp only [placesBySocket, List.flatMap_assoc, List.flatMap_map]

theorem stages_balancedStage (count : Nat) : stages cpuInfo.balancedStage count =
    (cpuInfo.placesByCore count).map fun place =>
      cpuInfo.getVCPUPairsForCore place.1 place.2 := by
  rw [stages, placesByCore, List.map_flatMap]
  refine List.flatMap_congr fun coreId _ => ?_
  rw [balancedStage, List.map_map]
  rfl

theorem flatten_stages (count : Nat) : (stages cpuInfo.balancedStage count).flatten =
    cpuInfo.vcpusAt (cpuInfo.placesByCore count) := by
  rw [stages_balancedStage, vcpusAt, List.flatMap_def]

/-- The first chunks of the balanced mode are the vCPUs of the first places. -/
theorem exists_places_iff (count : Nat) (property : List Int → Prop) :
    (∃ taken, taken <+: stages cpuInfo.balancedStage count ∧ property taken.flatten) ↔
      ∃ places, places <+: cpuInfo.placesByCore count ∧ property (cpuInfo.vcpusAt places) := by
  rw [stages_balancedStage]
  constructor
  · rintro ⟨taken, isPrefix, holds⟩
    obtain ⟨places, first, rfl⟩ := List.prefix_map_iff.mp isPrefix
    exact ⟨places, first, holds⟩
  · rintro ⟨places, isPrefix, holds⟩
    exact ⟨_, isPrefix.map _, holds⟩

end Sockets

section

variable (scheduling : CpuSchedulingMode)

theorem balancedSockets_eq (coreId : Nat) (socketIds selectedCpus : List Int) :
    scheduling.balancedSockets coreId socketIds selectedCpus =
      fill scheduling.numCpus
        (socketIds.map fun socketId => scheduling.cpuInfo.getVCPUPairsForCore socketId coreId)
        selectedCpus := by
  induction socketIds generalizing selectedCpus with
  | nil => rfl
  | cons socketId rest inductionHypothesis =>
    rw [CpuSchedulingMode.balancedSockets, inductionHypothesis]
    rfl

/-- To skip unused core ids changes nothing. -/
theorem balancedRound_eq : scheduling.balancedRound =
    fillRound scheduling.numCpus scheduling.cpuInfo.balancedStage := by
  refine funext fun (coreId, selectedCpus) => ?_
  rw [CpuSchedulingMode.balancedRound, fillRound]
  split
  · rename_i few
    split
    · rename_i unused
      have empty : ∀ chunk ∈ scheduling.cpuInfo.balancedStage coreId, chunk = [] := by
        refine List.forall_mem_map.mpr fun socketId _ => ?_
        exact pairs_of_unused _ unused socketId
      rw [fill_of_empty empty few]
    · rw [balancedSockets_eq, Sockets.balancedStage]
      cases fill scheduling.numCpus _ selectedCpus <;> rfl
  · rfl

end

/-! ### When the balanced mode ends -/

/-- What `CpuSchedulingMode.__init__` sets up, for the blocks of the file. -/
theorem init_iff {int : String → Option Int} {times : Int → ℚ → Option ℚ}
    {availableCpus : List Int} {cpuInfoFile : String} {numCpus : Int} {utilization : ℚ}
    {hyperthreadingMode : HyperthreadingMode} {cores : List Core} {scheduling : CpuSchedulingMode}
    (listed : availableCores int availableCpus cpuInfoFile = some cores) :
    CpuSchedulingMode.init int times availableCpus cpuInfoFile numCpus utilization
      hyperthreadingMode = some scheduling ↔
      ∃ selected,
        (if hyperthreadingMode = .skewed ∨ hyperthreadingMode = .balanced then
          getRequiredVCPUs times availableCpus utilization numCpus else some numCpus) =
            some selected ∧
        scheduling = {
          numCpus := selected
          requiredCpusNum := numCpus
          availableCpus
          targetUtilization :=
            if hyperthreadingMode = .skewed ∨ hyperthreadingMode = .balanced then 1
            else utilization
          hyperthreadingMode
          cpuInfo := cores.foldl Sockets.append .empty } := by
  rw [CpuSchedulingMode.init, collectCpuInfo_eq, listed, Option.bind_eq_some_iff]
  simp only [Option.map_some, Option.some.injEq, eq_comm (a := scheduling)]

/-- The number of CPUs that the pinned modes select is the required one. -/
theorem numCpus_of_init {int : String → Option Int} {times : Int → ℚ → Option ℚ}
    {availableCpus : List Int} {cpuInfoFile : String} {requiredCpusNum : Int} {utilization : ℚ}
    {hyperthreadingMode : HyperthreadingMode} {scheduling : CpuSchedulingMode}
    (pinned : hyperthreadingMode = .skewed ∨ hyperthreadingMode = .balanced)
    (created : CpuSchedulingMode.init int times availableCpus cpuInfoFile requiredCpusNum
      utilization hyperthreadingMode = some scheduling) :
    getRequiredVCPUs times availableCpus utilization requiredCpusNum = some scheduling.numCpus ∧
      scheduling.hyperthreadingMode = hyperthreadingMode := by
  obtain ⟨selected, required, rest⟩ := Option.bind_eq_some_iff.mp created
  obtain ⟨cpuInfo, -, rfl⟩ := Option.map_eq_some_iff.mp rest
  rw [if_pos pinned] at required
  exact ⟨required, rfl⟩

/-- Items are counted value by value. -/
theorem sum_countP_range {Item : Type} (items : List Item) (value : Item → Int)
    (property : Item → Prop) [DecidablePred property] (count : Nat) :
    ((List.range count).map fun index : Nat =>
      items.countP fun item => value item = index ∧ property item).sum =
        items.countP fun item => (0 ≤ value item ∧ value item < count) ∧ property item := by
  induction count with
  | zero =>
    refine (List.countP_eq_zero.mpr fun item _ => ?_).symm
    rw [decide_eq_true_iff]
    omega
  | succ count inductionHypothesis =>
    rw [List.range_succ, List.map_append, List.sum_append, inductionHypothesis, List.map_singleton,
      List.sum_singleton]
    clear inductionHypothesis
    induction items with
    | nil => rfl
    | cons item rest inductionHypothesis =>
      simp only [List.countP_cons, ← inductionHypothesis]
      by_cases holds : property item
      · simp only [holds, and_true, decide_eq_true_eq]
        split <;> split <;> split <;> omega
      · simp [holds]

section

variable {cpuInfo : Sockets} {cores : List Core} (records : cpuInfo.Records cores)

include records

/-- The vCPUs that the balanced mode finds in some rounds. -/
theorem length_vcpusAt_placesByCore (count : Nat) :
    (cpuInfo.vcpusAt (cpuInfo.placesByCore count)).length = cores.countP fun core =>
      (0 ≤ core.coreId ∧ core.coreId < (count : Int)) ∧
        (0 ≤ core.physicalId ∧ core.physicalId < (cpuInfo.getSocketsCount : Int)) := by
  have onPlace (socketId coreId : Int) :
      (cpuInfo.getVCPUPairsForCore socketId coreId).length = cores.countP fun core =>
        core.physicalId = socketId ∧ core.coreId = coreId := by
    rw [records.pairs, List.length_map, List.countP_eq_length_filter]
  rw [Sockets.vcpusAt, Sockets.placesByCore, List.flatMap_assoc, List.length_flatMap,
    ← sum_countP_range]
  refine congrArg List.sum (List.map_congr_left fun coreId _ => ?_)
  have swap : cores.countP (fun core => core.coreId = (coreId : Int) ∧
      (0 ≤ core.physicalId ∧ core.physicalId < (cpuInfo.getSocketsCount : Int))) =
      cores.countP fun core => (0 ≤ core.physicalId ∧
        core.physicalId < (cpuInfo.getSocketsCount : Int)) ∧ core.coreId = (coreId : Int) :=
    List.countP_congr fun core _ => by simp only [and_comm]
  rw [swap, ← sum_countP_range, List.flatMap_map, List.length_flatMap, Sockets.socketIds,
    List.map_map]
  exact congrArg List.sum (List.map_congr_left fun socketId _ => onPlace socketId coreId)

end

/-- If no id is negative, the balanced mode ends if and only if the sockets that are numbered from
zero have enough available vCPUs. -/
theorem balanced_ends_iff (int : String → Option Int) (times : Int → ℚ → Option ℚ)
    (availableCpus : List Int) (cpuInfoFile : String) (requiredCpusNum : Int) (utilization : ℚ)
    (cores : List Core) (scheduling : CpuSchedulingMode)
    (listed : availableCores int availableCpus cpuInfoFile = some cores)
    (nonneg : ∀ core ∈ cores, 0 ≤ core.physicalId ∧ 0 ≤ core.coreId)
    (created : CpuSchedulingMode.init int times availableCpus cpuInfoFile requiredCpusNum
      utilization .balanced = some scheduling) :
    getRequiredVCPUs times availableCpus utilization requiredCpusNum = some scheduling.numCpus ∧
      ((∃ selectedCpus, Ends scheduling.balancedRound (0, []) selectedCpus) ↔
        scheduling.numCpus ≤ cores.countP fun core =>
          core.physicalId < (scheduling.cpuInfo.getSocketsCount : Int)) := by
  refine ⟨(numCpus_of_init (.inr rfl) created).1, ?_⟩
  obtain ⟨required, -, rfl⟩ := (init_iff listed).mp created
  rw [balancedRound_eq, fillRound_ends_iff]
  simp only [Sockets.flatten_stages, length_vcpusAt_placesByCore (foldl_append_records cores)]
  constructor
  · rintro ⟨count, enough⟩
    refine enough.trans (Int.ofNat_le.mpr (List.countP_mono_left fun core _ found => ?_))
    rw [decide_eq_true_iff] at found ⊢
    exact found.2.2
  · intro enough
    refine ⟨(cores.map fun core => core.coreId.toNat).sum + 1, enough.trans (Int.ofNat_le.mpr
      (List.countP_mono_left fun core member low => ?_))⟩
    have above := List.le_sum_of_mem
      (List.mem_map_of_mem member (f := fun core => core.coreId.toNat))
    have positive := (nonneg core member).2
    rw [decide_eq_true_iff] at low ⊢
    exact ⟨⟨positive, by omega⟩, (nonneg core member).1, low⟩

/-- `int`, of one digit. -/
def oneDigit (text : String) : Option Int :=
  match text.toList with
  | [c] => if c.isDigit then some (c.toNat - '0'.toNat) else none
  | _ => none

/-- The products of small numbers with halves are exact. -/
def exactTimes (number : Int) (float : ℚ) : Option ℚ :=
  some (number * float)

/-- Two sockets with a core each. -/
def twoSockets : String :=
  "processor : 0\nphysical id : 0\ncore id : 0\n\nprocessor : 1\nphysical id : 1\ncore id : 0\n"

theorem availableCores_twoSockets :
    availableCores oneDigit [0, 1] twoSockets = some [⟨0, 0, 0⟩, ⟨1, 0, 1⟩] := by
  decide +kernel

theorem balanced_ends_twoSockets : ∃ scheduling,
    CpuSchedulingMode.init oneDigit exactTimes [0, 1] twoSockets 1 (1 / 2) .balanced =
        some scheduling ∧
      ∃ selectedCpus, Ends scheduling.balancedRound (0, []) selectedCpus := by
  have created := (@init_iff _ exactTimes _ _ 1 (1 / 2) .balanced _ _
    availableCores_twoSockets).mpr ⟨2, by decide +kernel, rfl⟩
  refine ⟨_, created, ?_⟩
  refine (balanced_ends_iff oneDigit exactTimes [0, 1] twoSockets 1 (1 / 2)
    [⟨0, 0, 0⟩, ⟨1, 0, 1⟩] _ availableCores_twoSockets (by decide) created).2.mpr ?_
  decide +kernel

/-- The loop does not end if the only available vCPU is on the second socket. -/
theorem not_balanced_ends_secondSocket : ∃ scheduling,
    CpuSchedulingMode.init oneDigit exactTimes [1] twoSockets 1 (1 / 2) .balanced =
        some scheduling ∧
      ¬ ∃ selectedCpus, Ends scheduling.balancedRound (0, []) selectedCpus := by
  have listed : availableCores oneDigit [1] twoSockets = some [⟨1, 0, 1⟩] := by
    decide +kernel
  refine ⟨_, (init_iff listed).mpr ⟨1, by decide +kernel, rfl⟩, fun ends => ?_⟩
  rw [balancedRound_eq, fillRound_ends_iff] at ends
  obtain ⟨count, enough⟩ := ends
  rw [Sockets.flatten_stages, length_vcpusAt_placesByCore (foldl_append_records _)] at enough
  have few : List.countP (fun core : Core => (0 ≤ core.coreId ∧ core.coreId < (count : Int)) ∧
      (0 ≤ core.physicalId ∧ core.physicalId < 1)) [⟨1, 0, 1⟩] = 0 :=
    List.countP_eq_zero.mpr (by simp)
  exact absurd (enough.trans_eq (congrArg Nat.cast few)) (by decide +kernel)

end Fleetbench.Parallel
