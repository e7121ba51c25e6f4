/-
This file proves what `SelectCPURangeAndSetUtilization` selects in the modes
that ask for the topology: different available CPUs, in an order that belongs to
the mode. It also proves when a mode selects as many as it should. The balanced
mode takes whole cores, so it may select more.
-/

import Fleetbench.Parallel.CpuScheduling
import Mathlib.Data.List.Flatten

namespace Fleetbench.Parallel

open Library

/-! ### What is promised -/

/-- At most one of the CPUs belongs to a core. -/
def OnePerCore (cores : List Core) (cpus : List Int) : Prop :=
  ∀ first ∈ cores, ∀ second ∈ cores, first.vcpu ∈ cpus → second.vcpu ∈ cpus →
    first.physicalId = second.physicalId → first.coreId = second.coreId →
      first.vcpu = second.vcpu

/-- A CPU of a socket is there only if those of all smaller sockets are. -/
def SocketBySocket (cores : List Core) (cpus : List Int) : Prop :=
  ∀ first ∈ cores, ∀ second ∈ cores, first.vcpu ∈ cpus →
    second.physicalId < first.physicalId → second.vcpu ∈ cpus

/-- How many of the CPUs belong to a socket. -/
def onSocket (cores : List Core) (socketId : Int) (cpus : List Int) : Nat :=
  cpus.countP fun cpu => ∃ core ∈ cores, core.physicalId = socketId ∧ core.vcpu = cpu

/-- Two sockets have the same core ids, and the same number of vCPUs for each. -/
structure Sockets.Alike (cpuInfo : Sockets) (first second : Int) : Prop where
  coreIds : ∀ coreId, coreId ∈ cpuInfo.getCoresForSocket first ↔
    coreId ∈ cpuInfo.getCoresForSocket second
  vcpus : ∀ coreId, (cpuInfo.getVCPUPairsForCore first coreId).length =
    (cpuInfo.getVCPUPairsForCore second coreId).length

/-- The CPUs of two sockets that are alike differ by those of one core. -/
def Balanced (cpuInfo : Sockets) (cores : List Core) (cpus : List Int) : Prop :=
  ∀ first ∈ cpuInfo.socketIds, ∀ second ∈ cpuInfo.socketIds, cpuInfo.Alike first second →
    ∃ coreId,
      onSocket cores first cpus ≤
        onSocket cores second cpus + (cpuInfo.getVCPUPairsForCore first coreId).length ∧
      onSocket cores second cpus ≤
        onSocket cores first cpus + (cpuInfo.getVCPUPairsForCore first coreId).length

/-- The promises of a selection; `cores` are the blocks of the available CPUs. -/
structure CpuSchedulingMode.Sound (scheduling : CpuSchedulingMode) (cores : List Core)
    (cpusList : List Int) : Prop where
  sorted : cpusList.Pairwise (· < ·)
  available : ∀ cpu ∈ cpusList, cpu ∈ scheduling.availableCpus
  disabled : scheduling.hyperthreadingMode = .disable →
    OnePerCore cores cpusList ∧ cpusList.length ≤ scheduling.numCpus
  skewed : scheduling.hyperthreadingMode = .skewed → SocketBySocket cores cpusList
  balanced : scheduling.hyperthreadingMode = .balanced →
    Balanced scheduling.cpuInfo cores cpusList

/-! ### Places -/

theorem nodup_socketIds (cpuInfo : Sockets) : cpuInfo.socketIds.Nodup :=
  List.nodup_range.map Int.ofNat_injective

theorem mem_socketIds {cpuInfo : Sockets} {socketId : Int} : socketId ∈ cpuInfo.socketIds ↔
    0 ≤ socketId ∧ socketId < cpuInfo.getSocketsCount := by
  rw [Sockets.socketIds, List.mem_map]
  constructor
  · rintro ⟨index, member, rfl⟩
    exact ⟨Int.natCast_nonneg index, Int.ofNat_lt.mpr (List.mem_range.mp member)⟩
  · rintro ⟨nonneg, below⟩
    exact ⟨socketId.toNat, List.mem_range.mpr (by omega), Int.toNat_of_nonneg nonneg⟩

section

variable {cpuInfo : Sockets} {cores : List Core} (records : cpuInfo.Records cores)

include records

omit records in
/-- Places that are listed by different labels are different. -/
theorem nodup_flatMap_places {Label : Type} {labels : List Label}
    {places : Label → List (Int × Int)} (different : labels.Nodup)
    (each : ∀ label, (places label).Nodup)
    (labelled : ∀ first second place, place ∈ places first → place ∈ places second →
      first = second) : (labels.flatMap places).Nodup := by
  refine List.nodup_flatMap.mpr ⟨fun label _ => each label, different.imp fun other => ?_⟩
  exact List.disjoint_left.mpr fun place isFirst isSecond =>
    other (labelled _ _ place isFirst isSecond)

theorem nodup_placesBySocket : cpuInfo.placesBySocket.Nodup := by
  refine nodup_flatMap_places (nodup_socketIds cpuInfo) (fun socketId =>
    (records.distinct socketId).map (Prod.mk_right_injective socketId)) ?_
  intro first second place isFirst isSecond
  obtain ⟨_, -, rfl⟩ := List.mem_map.mp isFirst
  obtain ⟨_, -, same⟩ := List.mem_map.mp isSecond
  exact (congrArg Prod.fst same).symm

omit records in
theorem nodup_placesByCore (count : Nat) : (cpuInfo.placesByCore count).Nodup := by
  refine nodup_flatMap_places List.nodup_range (fun coreId : Nat =>
    (nodup_socketIds cpuInfo).map (Prod.mk_left_injective (coreId : Int))) ?_
  intro first second place isFirst isSecond
  obtain ⟨_, -, rfl⟩ := List.mem_map.mp isFirst
  obtain ⟨_, -, same⟩ := List.mem_map.mp isSecond
  exact Int.ofNat_injective (congrArg Prod.snd same).symm

theorem mem_pairs {socketId coreId cpu : Int} :
    cpu ∈ cpuInfo.getVCPUPairsForCore socketId coreId ↔
      ∃ core ∈ cores, core.physicalId = socketId ∧ core.coreId = coreId ∧ core.vcpu = cpu := by
  rw [records.pairs, List.mem_map]
  simp [and_assoc]

theorem mem_vcpusAt {places : List (Int × Int)} {cpu : Int}
    (member : cpu ∈ cpuInfo.vcpusAt places) : ∃ core ∈ cores, core.vcpu = cpu := by
  obtain ⟨place, -, inside⟩ := List.mem_flatMap.mp member
  obtain ⟨core, isCore, -, -, isVcpu⟩ := (mem_pairs records).mp inside
  exact ⟨core, isCore, isVcpu⟩

variable (distinct : (cores.map (·.vcpu)).Nodup)

include distinct

/-- The vCPU of a block is found at the place of the block only. -/
theorem mem_pairs_vcpu {core : Core} (member : core ∈ cores) {socketId coreId : Int} :
    core.vcpu ∈ cpuInfo.getVCPUPairsForCore socketId coreId ↔
      core.physicalId = socketId ∧ core.coreId = coreId := by
  rw [mem_pairs records]
  constructor
  · rintro ⟨other, isCore, onSocket, onCore, same⟩
    cases List.inj_on_of_nodup_map distinct isCore member same
    exact ⟨onSocket, onCore⟩
  · rintro ⟨onSocket, onCore⟩
    exact ⟨core, member, onSocket, onCore, rfl⟩

theorem nodup_vcpusAt {places : List (Int × Int)} (different : places.Nodup) :
    (cpuInfo.vcpusAt places).Nodup := by
  refine List.nodup_flatMap.mpr ⟨fun place _ => ?_, different.imp fun {first second} other => ?_⟩
  · rw [records.pairs]
    exact distinct.sublist (List.filter_sublist.map _)
  · refine List.disjoint_left.mpr fun cpu isFirst isSecond => ?_
    obtain ⟨core, member, onSocket, onCore, rfl⟩ := (mem_pairs records).mp isFirst
    obtain ⟨onSocket', onCore'⟩ := (mem_pairs_vcpu records distinct member).mp isSecond
    exact other (Prod.ext (onSocket.symm.trans onSocket') (onCore.symm.trans onCore'))

/-! ### One vCPU per core -/

/-- The vCPUs among which the mode without hyperthreading selects. -/
theorem onePerCore_firsts : OnePerCore cores (cpuInfo.placesBySocket.flatMap fun place =>
    (cpuInfo.getVCPUPairsForCore place.1 place.2).take 1) := by
  have onPlace {core : Core} (member : core ∈ cores)
      (selected : core.vcpu ∈ cpuInfo.placesBySocket.flatMap fun place =>
        (cpuInfo.getVCPUPairsForCore place.1 place.2).take 1) :
      core.vcpu ∈ (cpuInfo.getVCPUPairsForCore core.physicalId core.coreId).take 1 := by
    obtain ⟨place, -, first⟩ := List.mem_flatMap.mp selected
    obtain ⟨isSocket, isCore⟩ :=
      (mem_pairs_vcpu records distinct member).mp (List.mem_of_mem_take first)
    rwa [isSocket, isCore]
  intro first isFirst second isSecond firstSelected secondSelected sameSocket sameCore
  have firstOnPlace := onPlace isFirst firstSelected
  have secondOnPlace := onPlace isSecond secondSelected
  rw [sameSocket, sameCore] at firstOnPlace
  cases listed : cpuInfo.getVCPUPairsForCore second.physicalId second.coreId with
  | nil =>
    rw [listed] at firstOnPlace
    cases firstOnPlace
  | cons cpu rest =>
    rw [listed, List.take_succ_cons, List.take_zero, List.mem_singleton]
      at firstOnPlace secondOnPlace
    exact firstOnPlace.trans secondOnPlace.symm

/-! ### Socket by socket -/

omit records distinct in
theorem pairwise_placesBySocket :
    cpuInfo.placesBySocket.Pairwise fun first second => first.1 ≤ second.1 := by
  refine List.pairwise_flatMap.mpr ⟨fun socketId _ => ?_, ?_⟩
  · exact List.pairwise_map.mpr (List.pairwise_of_forall fun _ _ => le_rfl)
  · refine List.pairwise_map.mpr (List.pairwise_lt_range.imp fun below => ?_)
    intro first isFirst second isSecond
    obtain ⟨_, -, rfl⟩ := List.mem_map.mp isFirst
    obtain ⟨_, -, rfl⟩ := List.mem_map.mp isSecond
    exact Int.ofNat_le.mpr below.le

/-- The first of the vCPUs that are ordered by sockets are taken socket by socket. -/
theorem socketBySocket_take (nonneg : ∀ core ∈ cores, 0 ≤ core.physicalId ∧ 0 ≤ core.coreId)
    (count : Nat) :
    SocketBySocket cores ((cpuInfo.vcpusAt cpuInfo.placesBySocket).take count) := by
  have ordered : (cpuInfo.vcpusAt cpuInfo.placesBySocket).Pairwise fun first second =>
      ∀ core ∈ cores, ∀ other ∈ cores, core.vcpu = first → other.vcpu = second →
        core.physicalId ≤ other.physicalId := by
    have onPlace {place : Int × Int} {cpu : Int} {core : Core} (member : core ∈ cores)
        (isCpu : core.vcpu = cpu)
        (inside : cpu ∈ cpuInfo.getVCPUPairsForCore place.1 place.2) :
        core.physicalId = place.1 :=
      ((mem_pairs_vcpu records distinct member).mp (isCpu ▸ inside)).1
    refine List.pairwise_flatMap.mpr ⟨fun place _ => ?_,
      pairwise_placesBySocket.imp fun le => ?_⟩
    · refine List.Pairwise.imp_of_mem (R := fun _ _ => True) (fun first second _ => ?_)
        (List.pairwise_of_forall fun _ _ => trivial)
      intro core isCore other isOther isFirst isSecond
      exact (onPlace isCore isFirst first).trans (onPlace isOther isSecond second).symm |>.le
    · intro cpu first cpu' second core isCore other isOther isFirst isSecond
      rw [onPlace isCore isFirst first, onPlace isOther isSecond second]
      exact le
  intro first isFirst second isSecond selected below
  have listed : second.vcpu ∈ cpuInfo.vcpusAt cpuInfo.placesBySocket := by
    obtain ⟨place, isPlace, inside⟩ := List.mem_flatMap.mp (List.mem_of_mem_take selected)
    obtain ⟨socketId, isSocket, isPlace⟩ := List.mem_flatMap.mp isPlace
    obtain ⟨_, -, rfl⟩ := List.mem_map.mp isPlace
    obtain ⟨rfl, -⟩ := (mem_pairs_vcpu records distinct isFirst).mp inside
    have isSmaller : second.physicalId ∈ cpuInfo.socketIds :=
      mem_socketIds.mpr ⟨(nonneg second isSecond).1, below.trans (mem_socketIds.mp isSocket).2⟩
    have isCore := (records.mem_cores _ _).mpr ⟨second, isSecond, rfl, rfl⟩
    refine List.mem_flatMap.mpr ⟨(second.physicalId, second.coreId), ?_, ?_⟩
    · exact List.mem_flatMap.mpr ⟨_, isSmaller, List.mem_map_of_mem isCore⟩
    · exact (mem_pairs_vcpu records distinct isSecond).mpr ⟨rfl, rfl⟩
  by_contra missing
  rw [← List.take_append_drop count (cpuInfo.vcpusAt cpuInfo.placesBySocket)] at ordered listed
  have later := (List.mem_append.mp listed).resolve_left missing
  have le := (List.pairwise_append.mp ordered).2.2 _ selected _ later first isFirst second isSecond
    rfl rfl
  omega

/-! ### Balance -/

omit records distinct in
theorem onSocket_append (socketId : Int) (first second : List Int) :
    onSocket cores socketId (first ++ second) =
      onSocket cores socketId first + onSocket cores socketId second :=
  List.countP_append

theorem onSocket_pairs (socketId other coreId : Int) :
    onSocket cores socketId (cpuInfo.getVCPUPairsForCore other coreId) =
      if socketId = other then (cpuInfo.getVCPUPairsForCore socketId coreId).length else 0 := by
  split
  · rename_i same
    subst same
    refine List.countP_eq_length.mpr fun cpu inside => ?_
    obtain ⟨core, member, isSocket, -, isVcpu⟩ := (mem_pairs records).mp inside
    exact decide_eq_true ⟨core, member, isSocket, isVcpu⟩
  · rename_i different
    refine List.countP_eq_zero.mpr fun cpu inside => ?_
    rw [decide_eq_true_iff]
    rintro ⟨core, member, isSocket, rfl⟩
    exact different (isSocket.symm.trans ((mem_pairs_vcpu records distinct member).mp inside).1)

/-- In a round, the vCPUs of a socket are those of one core, if its turn comes. -/
theorem onSocket_round (socketId : Int) (coreId : Int) {sockets : List Int}
    (different : sockets.Nodup) :
    onSocket cores socketId (cpuInfo.vcpusAt (sockets.map fun socketId => (socketId, coreId))) =
      if socketId ∈ sockets then (cpuInfo.getVCPUPairsForCore socketId coreId).length else 0 := by
  induction sockets with
  | nil => rfl
  | cons first rest inductionHypothesis =>
    obtain ⟨fresh, others⟩ := List.nodup_cons.mp different
    rw [List.map_cons, Sockets.vcpusAt, List.flatMap_cons, onSocket_append,
      onSocket_pairs records distinct]
    rw [Sockets.vcpusAt] at inductionHypothesis
    rw [inductionHypothesis others]
    by_cases same : socketId = first
    · subst same
      rw [if_pos rfl, if_neg fresh, if_pos List.mem_cons_self, Nat.add_zero]
    · rw [if_neg same, Nat.zero_add]
      simp only [List.mem_cons, same, false_or]

omit records distinct in
theorem placesByCore_succ (count : Nat) : cpuInfo.placesByCore (count + 1) =
    cpuInfo.placesByCore count ++
      cpuInfo.socketIds.map fun socketId => (socketId, (count : Int)) := by
  rw [Sockets.placesByCore, List.range_succ, List.flatMap_append, List.flatMap_singleton]
  rfl

omit records distinct in
theorem vcpusAt_append (first second : List (Int × Int)) :
    cpuInfo.vcpusAt (first ++ second) = cpuInfo.vcpusAt first ++ cpuInfo.vcpusAt second :=
  List.flatMap_append

section

variable {first second : Int} (isFirst : first ∈ cpuInfo.socketIds)
  (isSecond : second ∈ cpuInfo.socketIds) (alike : cpuInfo.Alike first second)

include isFirst isSecond alike

theorem onSocket_rounds (count : Nat) :
    onSocket cores first (cpuInfo.vcpusAt (cpuInfo.placesByCore count)) =
      onSocket cores second (cpuInfo.vcpusAt (cpuInfo.placesByCore count)) := by
  induction count with
  | zero => rfl
  | succ count inductionHypothesis =>
    have different := nodup_socketIds cpuInfo
    rw [placesByCore_succ, vcpusAt_append, onSocket_append, onSocket_append, inductionHypothesis,
      onSocket_round records distinct _ _ different, onSocket_round records distinct _ _ different,
      if_pos isFirst, if_pos isSecond, alike.vcpus]

/-- All rounds but the last are complete. -/
theorem onSocket_places {count : Nat} {places : List (Int × Int)}
    (isPrefix : places <+: cpuInfo.placesByCore count) : ∃ coreId,
      onSocket cores first (cpuInfo.vcpusAt places) ≤
        onSocket cores second (cpuInfo.vcpusAt places) +
          (cpuInfo.getVCPUPairsForCore first coreId).length ∧
      onSocket cores second (cpuInfo.vcpusAt places) ≤
        onSocket cores first (cpuInfo.vcpusAt places) +
          (cpuInfo.getVCPUPairsForCore first coreId).length := by
  induction count with
  | zero =>
    rw [List.prefix_nil.mp isPrefix]
    exact ⟨0, Nat.zero_le _, Nat.zero_le _⟩
  | succ count inductionHypothesis =>
    rw [placesByCore_succ] at isPrefix
    rcases List.prefix_or_prefix_of_prefix isPrefix (List.prefix_append _ _) with few | more
    · exact inductionHypothesis few
    · obtain ⟨last, rfl⟩ := more
      obtain ⟨sockets, some, rfl⟩ :=
        List.prefix_map_iff.mp ((List.prefix_append_right_inj _).mp isPrefix)
      have different := (nodup_socketIds cpuInfo).sublist some.sublist
      refine ⟨count, ?_⟩
      rw [vcpusAt_append, onSocket_append, onSocket_append,
        onSocket_rounds records distinct isFirst isSecond alike,
        onSocket_round records distinct _ _ different,
        onSocket_round records distinct _ _ different, alike.vcpus]
      split <;> split <;> omega

end

end

/-! ### What is selected -/

theorem OnePerCore.of_subset {cores : List Core} {some all : List Int}
    (onePerCore : OnePerCore cores all) (subset : some ⊆ all) : OnePerCore cores some :=
  fun first isFirst second isSecond firstSelected secondSelected =>
    onePerCore first isFirst second isSecond (subset firstSelected) (subset secondSelected)

/-- Different CPUs are sorted strictly. -/
theorem pairwise_lt_insertionSort {cpus : List Int} (different : cpus.Nodup) :
    (cpus.insertionSort (· ≤ ·)).Pairwise (· < ·) := by
  have still : (cpus.insertionSort (· ≤ ·)).Nodup :=
    (List.perm_insertionSort (· ≤ ·) cpus).nodup_iff.mpr different
  exact (List.pairwise_insertionSort (· ≤ ·) cpus).imp₂ (fun _ _ => lt_of_le_of_ne) still

/-- What the loop of the balanced mode returns. -/
theorem exists_places {scheduling : CpuSchedulingMode} {fuel : Nat} {cpusList : List Int}
    (runs : scheduling.getCPUsWithBalancedScheduling fuel = some cpusList) :
    ∃ count, ∃ places, places <+: scheduling.cpuInfo.placesByCore count ∧
      cpusList = scheduling.cpuInfo.vcpusAt places := by
  rw [CpuSchedulingMode.getCPUsWithBalancedScheduling, balancedRound_eq] at runs
  obtain ⟨count, taken⟩ := (fills_of_loop runs).chunks
  exact ⟨count, (scheduling.cpuInfo.exists_places_iff count (cpusList = ·)).mp taken⟩

section

variable {scheduling : CpuSchedulingMode} {cores : List Core}
  (records : scheduling.cpuInfo.Records cores)
  (available : ∀ core ∈ cores, core.vcpu ∈ scheduling.availableCpus)
  (distinct : (cores.map (·.vcpu)).Nodup)

include records available distinct

/-- Sorting keeps what a mode promises. -/
theorem sound_insertionSort {cpus : List Int} {places : List (Int × Int)} (nodup : places.Nodup)
    (selected : cpus.Sublist (scheduling.cpuInfo.vcpusAt places))
    (disabled : scheduling.hyperthreadingMode = .disable →
      OnePerCore cores cpus ∧ cpus.length ≤ scheduling.numCpus)
    (skewed : scheduling.hyperthreadingMode = .skewed → SocketBySocket cores cpus)
    (balanced : scheduling.hyperthreadingMode = .balanced →
      Balanced scheduling.cpuInfo cores cpus) :
    scheduling.Sound cores (cpus.insertionSort (· ≤ ·)) := by
  have permuted := List.perm_insertionSort (· ≤ ·) cpus
  refine ⟨?_, fun cpu member => ?_, fun mode => ?_, fun mode => ?_, fun mode => ?_⟩
  · exact pairwise_lt_insertionSort ((nodup_vcpusAt records distinct nodup).sublist selected)
  · obtain ⟨core, isCore, rfl⟩ := mem_vcpusAt records (selected.subset (permuted.subset member))
    exact available core isCore
  · obtain ⟨onePerCore, few⟩ := disabled mode
    rw [permuted.length_eq]
    exact ⟨onePerCore.of_subset permuted.subset, few⟩
  · intro first isFirst second isSecond inside below
    rw [permuted.mem_iff] at inside ⊢
    exact skewed mode first isFirst second isSecond inside below
  · intro first isFirst second isSecond alike
    rw [onSocket, onSocket, permuted.countP_eq, permuted.countP_eq]
    exact balanced mode first isFirst second isSecond alike

theorem selectCPURange_sound (nonneg : ∀ core ∈ cores, 0 ≤ core.physicalId ∧ 0 ≤ core.coreId)
    (positive : 0 < scheduling.requiredCpusNum)
    (unpinned : scheduling.hyperthreadingMode = .disable →
      scheduling.numCpus = scheduling.requiredCpusNum)
    (pinned : scheduling.hyperthreadingMode ≠ .dynamic) {fuel : Nat} {cpusList : List Int}
    {utilization : ℚ}
    (returns : scheduling.selectCPURangeAndSetUtilization fuel = some (cpusList, utilization)) :
    scheduling.Sound cores cpusList := by
  rw [CpuSchedulingMode.selectCPURangeAndSetUtilization] at returns
  cases mode : scheduling.hyperthreadingMode with
  | dynamic => exact absurd mode pinned
  | disable =>
    rw [mode] at returns
    cases returns
    have few (all : List Int) (notMore : ¬ scheduling.numCpus > all.length) :
        (slice all scheduling.numCpus).length ≤ scheduling.numCpus := by
      have wanted := unpinned mode
      rw [slice, if_pos (by omega), List.length_take]
      omega
    have firsts : (scheduling.cpuInfo.placesBySocket.flatMap fun place =>
        (scheduling.cpuInfo.getVCPUPairsForCore place.1 place.2).take 1).Sublist
          (scheduling.cpuInfo.vcpusAt scheduling.cpuInfo.placesBySocket) :=
      .flatMap_right _ fun _ _ => List.take_sublist _ _
    have onePerCore := onePerCore_firsts records distinct
    rw [CpuSchedulingMode.getCPUsWithDisabledSMT, ← scheduling.cpuInfo.flatMap_placesBySocket
      fun socketId coreId => (scheduling.cpuInfo.getVCPUPairsForCore socketId coreId).take 1]
    refine sound_insertionSort records available distinct (nodup_placesBySocket records) ?_
      (fun _ => ?_) ?_ ?_
    · split
      · exact firsts
      · exact (List.take_sublist _ _).trans firsts
    · split
      · rename_i more
        exact ⟨onePerCore, more.le⟩
      · rename_i notMore
        exact ⟨onePerCore.of_subset (List.take_subset _ _), few _ notMore⟩
    · exact fun skewed => nomatch mode.symm.trans skewed
    · exact fun balanced => nomatch mode.symm.trans balanced
  | skewed =>
    rw [mode] at returns
    cases returns
    rw [CpuSchedulingMode.getCPUsWithSkewedScheduling, ← Sockets.flatMap_placesBySocket]
    refine sound_insertionSort records available distinct (nodup_placesBySocket records)
      (List.take_sublist _ _) ?_ (fun _ => ?_) ?_
    · exact fun disable => nomatch mode.symm.trans disable
    · exact socketBySocket_take records distinct nonneg _
    · exact fun balanced => nomatch mode.symm.trans balanced
  | balanced =>
    rw [mode] at returns
    obtain ⟨cpus, runs, same⟩ := Option.map_eq_some_iff.mp returns
    cases same
    obtain ⟨count, places, isPrefix, rfl⟩ := exists_places runs
    refine sound_insertionSort records available distinct
      ((nodup_placesByCore count).sublist isPrefix.sublist) (List.Sublist.refl _) ?_ ?_ fun _ => ?_
    · exact fun disable => nomatch mode.symm.trans disable
    · exact fun skewed => nomatch mode.symm.trans skewed
    · exact fun first isFirst second isSecond alike =>
        onSocket_places records distinct isFirst isSecond alike isPrefix

end

/-- What is selected is sorted, different and available, and as the mode promises. -/
theorem selectCPURangeAndSetUtilization_sound (int : String → Option Int)
    (times : Int → ℚ → Option ℚ) (availableCpus : List Int) (cpuInfoFile : String)
    (requiredCpusNum : Int) (utilization : ℚ) (hyperthreadingMode : HyperthreadingMode)
    (cores : List Core) (scheduling : CpuSchedulingMode) (fuel : Nat) (cpusList : List Int)
    (newUtilization : ℚ) (listed : availableCores int availableCpus cpuInfoFile = some cores)
    (distinct : (cores.map (·.vcpu)).Nodup)
    (nonneg : ∀ core ∈ cores, 0 ≤ core.physicalId ∧ 0 ≤ core.coreId)
    (positive : 0 < requiredCpusNum) (pinned : hyperthreadingMode ≠ .dynamic)
    (created : CpuSchedulingMode.init int times availableCpus cpuInfoFile requiredCpusNum
      utilization hyperthreadingMode = some scheduling)
    (returns : scheduling.selectCPURangeAndSetUtilization fuel =
      some (cpusList, newUtilization)) :
    scheduling.Sound cores cpusList := by
  obtain ⟨selected, required, rfl⟩ := (init_iff listed).mp created
  refine selectCPURange_sound (foldl_append_records cores) ?_ distinct nonneg positive
    (fun disable => ?_) pinned returns
  · exact mem_availableCores listed
  · dsimp only at disable ⊢
    rw [disable, if_neg (by decide)] at required
    exact (Option.some.inj required).symm

theorem selectCPURangeAndSetUtilization_sound_twoSockets : ∃ scheduling,
    CpuSchedulingMode.init oneDigit exactTimes [0, 1] twoSockets 1 (1 / 2) .skewed =
        some scheduling ∧
      scheduling.Sound [⟨0, 0, 0⟩, ⟨1, 0, 1⟩] [0, 1] := by
  have created := (@init_iff _ exactTimes _ _ 1 (1 / 2) .skewed _ _
    availableCores_twoSockets).mpr ⟨2, by decide +kernel, rfl⟩
  refine ⟨_, created, ?_⟩
  exact selectCPURangeAndSetUtilization_sound oneDigit exactTimes [0, 1] twoSockets 1 (1 / 2)
    .skewed _ _ 0 [0, 1] 1 availableCores_twoSockets (by decide) (by decide) (by decide)
    (by decide) created (by decide +kernel)

/-! ### How many are selected -/

/-- The condition for as many CPUs as there should be. The skewed mode needs enough vCPUs on the
sockets that are numbered from zero; the balanced mode needs whole cores, in the order in which it
takes them, that have exactly this number. -/
def CpuSchedulingMode.Fits (scheduling : CpuSchedulingMode) : Prop :=
  match scheduling.hyperthreadingMode with
  | .skewed =>
    scheduling.numCpus ≤ (scheduling.cpuInfo.vcpusAt scheduling.cpuInfo.placesBySocket).length
  | .balanced =>
    ∃ count, ∃ places, places <+: scheduling.cpuInfo.placesByCore count ∧
      ((scheduling.cpuInfo.vcpusAt places).length : Int) = scheduling.numCpus
  | _ => True

theorem length_skewed_iff {scheduling : CpuSchedulingMode} (nonneg : 0 ≤ scheduling.numCpus) :
    (scheduling.getCPUsWithSkewedScheduling.length : Int) = scheduling.numCpus ↔
      scheduling.numCpus ≤
        (scheduling.cpuInfo.vcpusAt scheduling.cpuInfo.placesBySocket).length := by
  rw [CpuSchedulingMode.getCPUsWithSkewedScheduling, ← Sockets.flatMap_placesBySocket]
  show ((slice (scheduling.cpuInfo.vcpusAt _) _).length : Int) = _ ↔ _
  rw [slice, if_pos nonneg, List.length_take]
  omega

theorem length_balanced_iff {scheduling : CpuSchedulingMode} :
    (∃ fuel cpusList, scheduling.getCPUsWithBalancedScheduling fuel = some cpusList ∧
      (cpusList.length : Int) = scheduling.numCpus) ↔
      ∃ count, ∃ places, places <+: scheduling.cpuInfo.placesByCore count ∧
        ((scheduling.cpuInfo.vcpusAt places).length : Int) = scheduling.numCpus := by
  simp only [← scheduling.cpuInfo.exists_places_iff _
    fun cpus => (cpus.length : Int) = scheduling.numCpus]
  simp only [CpuSchedulingMode.getCPUsWithBalancedScheduling, balancedRound_eq]
  constructor
  · rintro ⟨fuel, cpusList, runs, exactly⟩
    exact (length_fills_iff (fills_of_loop runs)).mp exactly
  · rintro ⟨count, taken, isPrefix, exactly⟩
    obtain ⟨cpusList, ends⟩ := fillRound_ends_iff.mpr
      ⟨count, exactly.ge.trans (Int.ofNat_le.mpr (length_flatten_le isPrefix))⟩
    obtain ⟨fuel, runs⟩ := ends.returns
    exact ⟨fuel, cpusList, runs,
      (length_fills_iff (fills_of_loop runs)).mpr ⟨count, taken, isPrefix, exactly⟩⟩

theorem length_selected_iff {scheduling : CpuSchedulingMode} (nonneg : 0 ≤ scheduling.numCpus)
    (pinned : scheduling.hyperthreadingMode = .skewed ∨
      scheduling.hyperthreadingMode = .balanced) :
    (∃ fuel cpusList utilization, scheduling.selectCPURangeAndSetUtilization fuel =
      some (cpusList, utilization) ∧ (cpusList.length : Int) = scheduling.numCpus) ↔
      scheduling.Fits := by
  simp only [CpuSchedulingMode.selectCPURangeAndSetUtilization]
  rcases pinned with mode | mode
  · simp only [mode]
    rw [CpuSchedulingMode.Fits, mode]
    refine .trans ⟨?_, fun exactly => ⟨0, _, _, rfl, ?_⟩⟩ (length_skewed_iff nonneg)
    · rintro ⟨-, _, -, ⟨⟩, exactly⟩
      rwa [List.length_insertionSort] at exactly
    · rwa [List.length_insertionSort]
  · simp only [mode]
    rw [CpuSchedulingMode.Fits, mode]
    refine .trans ⟨?_, ?_⟩ length_balanced_iff
    · rintro ⟨fuel, cpusList, utilization, returns, exactly⟩
      obtain ⟨cpus, runs, same⟩ := Option.map_eq_some_iff.mp returns
      cases same
      rw [List.length_insertionSort] at exactly
      exact ⟨fuel, cpus, runs, exactly⟩
    · rintro ⟨fuel, cpus, runs, exactly⟩
      refine ⟨fuel, _, _, Option.map_eq_some_iff.mpr ⟨cpus, runs, rfl⟩, ?_⟩
      rwa [List.length_insertionSort]

/-- Exactly `self.num_cpus` CPUs are selected if and only if the condition of the mode holds. -/
theorem length_cpusList_iff (int : String → Option Int) (times : Int → ℚ → Option ℚ)
    (availableCpus : List Int) (cpuInfoFile : String) (requiredCpusNum : Int) (utilization : ℚ)
    (hyperthreadingMode : HyperthreadingMode) (scheduling : CpuSchedulingMode)
    (product : ∀ number float value, 0 ≤ number → 0 ≤ float →
      times number float = some value → 0 ≤ value)
    (pinned : hyperthreadingMode = .skewed ∨ hyperthreadingMode = .balanced)
    (positive : 0 < requiredCpusNum) (nonneg : 0 ≤ utilization)
    (created : CpuSchedulingMode.init int times availableCpus cpuInfoFile requiredCpusNum
      utilization hyperthreadingMode = some scheduling) :
    getRequiredVCPUs times availableCpus utilization requiredCpusNum = some scheduling.numCpus ∧
      ((∃ fuel cpusList newUtilization, scheduling.selectCPURangeAndSetUtilization fuel =
        some (cpusList, newUtilization) ∧ (cpusList.length : Int) = scheduling.numCpus) ↔
        scheduling.Fits) := by
  obtain ⟨required, rfl⟩ := numCpus_of_init pinned created
  refine ⟨required, length_selected_iff ?_ pinned⟩
  obtain ⟨value, rounded, isMin⟩ := Option.map_eq_some_iff.mp required
  have whole : 0 ≤ ⌈value⌉ := Int.ceil_nonneg (product _ _ _ positive.le nonneg rounded)
  rw [← isMin]
  dsimp only
  split <;> omega

/-- A socket with two cores of two vCPUs each. -/
def twoCores : String :=
  "processor : 0\nphysical id : 0\ncore id : 0\n\n" ++
  "processor : 1\nphysical id : 0\ncore id : 0\n\n" ++
  "processor : 2\nphysical id : 0\ncore id : 1\n\n" ++
  "processor : 3\nphysical id : 0\ncore id : 1\n"

theorem availableCores_twoCores : availableCores oneDigit [0, 1, 2, 3] twoCores =
    some [⟨0, 0, 0⟩, ⟨0, 0, 1⟩, ⟨0, 1, 2⟩, ⟨0, 1, 3⟩] := by
  decide +kernel

theorem length_cpusList_twoCores : ∃ scheduling,
    CpuSchedulingMode.init oneDigit exactTimes [0, 1, 2, 3] twoCores 2 (1 / 2) .skewed =
        some scheduling ∧
      scheduling.numCpus = 3 ∧
      ∃ fuel cpusList newUtilization, scheduling.selectCPURangeAndSetUtilization fuel =
        some (cpusList, newUtilization) ∧ (cpusList.length : Int) = scheduling.numCpus := by
  have created := (@init_iff _ exactTimes _ _ 2 (1 / 2) .skewed _ _
    availableCores_twoCores).mpr ⟨3, by decide +kernel, rfl⟩
  refine ⟨_, created, rfl, ?_⟩
  refine (length_cpusList_iff oneDigit exactTimes [0, 1, 2, 3] twoCores 2 (1 / 2) .skewed _ ?_
    (.inl rfl) (by decide) (by decide +kernel) created).2.mpr ?_
  · rintro number float _ nonneg nonneg' ⟨⟩
    exact mul_nonneg (Int.cast_nonneg nonneg) nonneg'
  · show (3 : Int) ≤ _
    decide +kernel

/-- Three CPUs are wanted, and four are selected. -/
theorem not_length_balanced_twoCores : ∃ scheduling,
    CpuSchedulingMode.init oneDigit exactTimes [0, 1, 2, 3] twoCores 2 (1 / 2) .balanced =
        some scheduling ∧
      getRequiredVCPUs exactTimes [0, 1, 2, 3] (1 / 2) 2 = some 3 ∧
      scheduling.selectCPURangeAndSetUtilization 3 = some ([0, 1, 2, 3], 1) :=
  ⟨_, (init_iff availableCores_twoCores).mpr ⟨3, by decide +kernel, rfl⟩, by decide +kernel,
    by decide +kernel⟩

end Fleetbench.Parallel
