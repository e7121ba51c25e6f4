/-
This file asks whether reserved workers are always given back. A worker unblocks
the extra workers of a run only `if extra_workers and self._affinity`, but the
controller reserves them whether or not affinity is set. So in a system that has
come to rest nothing is reserved exactly when affinity is set or no run had extra
workers; otherwise the extra workers stay blocked for good.
-/

import Fleetbench.Parallel.Exclusivity

namespace Fleetbench.Parallel

open Library

variable {Number : Type} {config : Config} {loads : String → Option (Value Number)}
  {before after system : System Number} {cpu : Cpu}

/-! ### Systems at rest -/

/-- The controller is outside the body of the loop over the benchmarks. -/
def ControllerState.betweenBenchmarks : ControllerState Number → Prop
  | .tick => True
  | .scheduling _ _ => True
  | .draining _ _ => True
  | _ => False

/-- The worker thread is outside the body of its loop. -/
def WorkerState.betweenTasks : WorkerState Number → Prop
  | .starting => True
  | .waiting => True
  | .exited => True
  | _ => False

/-- No run is queued or executing and every thread has finished what it was doing. -/
structure Quiescent (config : Config) (system : System Number) : Prop where
  controller : system.controller.betweenBenchmarks
  queues : ∀ cpu ∈ config.cpus, ∀ task, system.commandQ cpu ≠ some (some task)
  workers : ∀ cpu ∈ config.cpus, (system.worker cpu).betweenTasks

/-- Every worker can accept a run or a reservation. -/
def Unreserved (config : Config) (system : System Number) : Prop :=
  ∀ cpu ∈ config.cpus, system.inUseAsExtraWorker cpu = false ∧ system.lock cpu = none

/-- The condition under which every run gives back its extra workers. -/
def GivesBack (config : Config) (system : System Number) : Prop :=
  config.cpuAffinity = true ∨ ∀ entry ∈ system.accepted, entry.2.extraWorkers = []

/-! ### What becomes of accepted tasks -/

/-- A worker in these states is about to unblock extra workers. -/
def WorkerState.unblocks : WorkerState Number → Bool
  | .narrowing _ => true
  | .unblocking _ _ => true
  | .unlocking _ _ _ => true
  | _ => false

/-- Tasks that ended without unblocking were accepted, and had nothing to unblock if affinity is
set; without affinity no task ends in any other way. -/
structure Tracked (config : Config) (system : System Number) : Prop where
  leaked : ∀ task ∈ system.leaked, (∃ cpu, (cpu, task) ∈ system.accepted) ∧
    (config.cpuAffinity = true → task.extraWorkers = [])
  unblocks : ∀ cpu, (system.worker cpu).unblocks = true → config.cpuAffinity = true
  kept : config.cpuAffinity = false → ∀ entry ∈ system.accepted,
    system.commandQ entry.1 = some (some entry.2) ∨
      (system.worker entry.1).task? = some entry.2 ∨ entry.2 ∈ system.leaked

theorem tracked_start : Tracked config (System.start : System Number) where
  leaked := fun _ member => by cases member
  unblocks := fun _ unblocks => by cases unblocks
  kept := fun _ _ member => by cases member

theorem widens_affinity {task : RunAndExtraWorkers} (widens : config.widens task = true) :
    config.cpuAffinity = true := by
  rw [Config.widens, Bool.and_eq_true] at widens
  exact widens.2

theorem unblocks_workerMove
    (unblocks : ∀ cpu, (before.worker cpu).unblocks = true → config.cpuAffinity = true)
    (move : WorkerMove config loads cpu before after) (other : Cpu)
    (isUnblocking : (after.worker other).unblocks = true) : config.cpuAffinity = true := by
  have elsewhere : ∀ state : WorkerState Number,
      (Function.update before.worker cpu state other).unblocks = true →
      (state.unblocks = true → config.cpuAffinity = true) → config.cpuAffinity = true := by
    intro state updated here
    by_cases same : other = cpu
    · subst same
      rw [Function.update_self] at updated
      exact here updated
    · rw [Function.update_of_ne same] at updated
      exact unblocks other updated
  cases move with
  | post task result state widens => exact widens_affinity widens
  | narrow task state => exact unblocks cpu (by rw [state]; rfl)
  | unblock task extra todo state => exact unblocks cpu (by rw [state]; rfl)
  | unlock task extra todo state held => exact unblocks cpu (by rw [state]; rfl)
  | start state => exact elsewhere _ isUnblocking fun impossible => by cases impossible
  | takeStop state _ => exact elsewhere _ isUnblocking fun impossible => by cases impossible
  | takeTask _ state _ => exact elsewhere _ isUnblocking fun impossible => by cases impossible
  | acquire _ state _ => exact elsewhere _ isUnblocking fun impossible => by cases impossible
  | widen _ state => exact elsewhere _ isUnblocking fun impossible => by cases impossible
  | executed _ _ _ state _ => exact elsewhere _ isUnblocking fun impossible => by cases impossible
  | failed _ _ state _ => exact elsewhere _ isUnblocking fun impossible => by cases impossible
  | postLast _ _ state _ => exact elsewhere _ isUnblocking fun impossible => by cases impossible
  | unblocked _ state => exact elsewhere _ isUnblocking fun impossible => by cases impossible
  | release state => exact elsewhere _ isUnblocking fun impossible => by cases impossible
  | stop state => exact elsewhere _ isUnblocking fun impossible => by cases impossible
  | die _ state => exact elsewhere _ isUnblocking fun impossible => by cases impossible

theorem leaked_workerMove (move : WorkerMove config loads cpu before after) :
    after.leaked = before.leaked ∨ ∃ task, (before.worker cpu).task? = some task ∧
      config.widens task = false ∧ after.leaked = before.leaked ++ [task] := by
  cases move with
  | postLast task result state stays =>
    exact .inr ⟨task, by rw [state]; rfl, stays, rfl⟩
  | _ => exact .inl rfl

/-- Without affinity a task in progress stays with its worker until it is posted. -/
theorem kept_task (unblocks : ∀ cpu, (before.worker cpu).unblocks = false)
    (move : WorkerMove config loads cpu before after) {other : Cpu} {task : RunAndExtraWorkers}
    (taken : (before.worker other).task? = some task) :
    (after.worker other).task? = some task ∨ task ∈ after.leaked := by
  have elsewhere : ∀ state : WorkerState Number,
      ((before.worker cpu).task? = some task → state.task? = some task) →
      (Function.update before.worker cpu state other).task? = some task := by
    intro state here
    by_cases same : other = cpu
    · subst same
      rw [Function.update_self]
      exact here taken
    · rw [Function.update_of_ne same]
      exact taken
  cases move with
  | start state =>
    refine .inl (elsewhere _ fun impossible => ?_)
    rw [state] at impossible
    cases impossible
  | takeStop state _ =>
    exact .inl (elsewhere _ fun impossible => by rw [state] at impossible; cases impossible)
  | takeTask _ state _ =>
    exact .inl (elsewhere _ fun impossible => by rw [state] at impossible; cases impossible)
  | release state =>
    exact .inl (elsewhere _ fun impossible => by rw [state] at impossible; cases impossible)
  | stop state =>
    exact .inl (elsewhere _ fun impossible => by rw [state] at impossible; cases impossible)
  | unblocked task state =>
    have never := unblocks cpu
    rw [state] at never
    cases never
  | postLast task' result state stays =>
    by_cases same : other = cpu
    · subst same
      rw [state] at taken
      cases taken
      exact .inr (List.mem_append_right _ (List.mem_singleton_self _))
    · refine .inl ?_
      show (Function.update before.worker cpu .releasing other).task? = some task
      rw [Function.update_of_ne same]
      exact taken
  | acquire _ state _ => exact .inl (elsewhere _ fun same => by rwa [state] at same)
  | widen _ state => exact .inl (elsewhere _ fun same => by rwa [state] at same)
  | executed _ _ _ state _ => exact .inl (elsewhere _ fun same => by rwa [state] at same)
  | failed _ _ state _ => exact .inl (elsewhere _ fun same => by rwa [state] at same)
  | post _ _ state _ => exact .inl (elsewhere _ fun same => by rwa [state] at same)
  | narrow _ state => exact .inl (elsewhere _ fun same => by rwa [state] at same)
  | unblock _ _ _ state => exact .inl (elsewhere _ fun same => by rwa [state] at same)
  | unlock _ _ _ state _ => exact .inl (elsewhere _ fun same => by rwa [state] at same)
  | die _ state => exact .inl (elsewhere _ fun same => by rwa [state] at same)

theorem kept_queue (move : WorkerMove config loads cpu before after) {other : Cpu}
    {task : RunAndExtraWorkers} (queued : before.commandQ other = some (some task)) :
    after.commandQ other = some (some task) ∨ (after.worker other).task? = some task := by
  cases move with
  | takeStop state stop =>
    have different : other ≠ cpu := by
      rintro rfl
      cases stop.symm.trans queued
    exact .inl ((Function.update_of_ne different _ _).trans queued)
  | takeTask task' state found =>
    by_cases same : other = cpu
    · subst same
      cases found.symm.trans queued
      refine .inr ?_
      show (Function.update before.worker other (.acquiring task) other).task? = some task
      rw [Function.update_self]
      rfl
    · exact .inl ((Function.update_of_ne same _ _).trans queued)
  | _ => exact .inl queued

theorem controllerMove_leaked (move : ControllerMove config before after) :
    after.leaked = before.leaked := by
  cases move <;> rfl

theorem controllerMove_queue (move : ControllerMove config before after) {other : Cpu}
    {task : RunAndExtraWorkers} (queued : before.commandQ other = some (some task)) :
    after.commandQ other = some (some task) := by
  cases move with
  | accept scan cpu state empty =>
    have different : other ≠ cpu := by
      rintro rfl
      cases empty.symm.trans queued
    exact (Function.update_of_ne different _ _).trans queued
  | stop cpu todo state empty =>
    have different : other ≠ cpu := by
      rintro rfl
      cases empty.symm.trans queued
    exact (Function.update_of_ne different _ _).trans queued
  | _ => exact queued

theorem tracked_step (scheduled : Scheduled config before) (tracked : Tracked config before)
    (step : Step config loads before after) : Tracked config after := by
  obtain ⟨cpu, _, move⟩ | move := step.cases
  · obtain ⟨acceptedEq, _⟩ := accepted_workerMove move
    refine ⟨?_, unblocks_workerMove tracked.unblocks move, ?_⟩
    · rw [acceptedEq]
      rcases leaked_workerMove move with same | ⟨task, taken, stays, grown⟩
      · rw [same]
        exact tracked.leaked
      · rw [grown]
        intro other member
        rcases List.mem_append.mp member with old | new
        · exact tracked.leaked other old
        · rw [List.mem_singleton.mp new]
          exact ⟨⟨cpu, scheduled.taken cpu task taken⟩,
            fun affine => extraWorkers_of_not_widens affine stays⟩
    · intro free entry member
      rw [acceptedEq] at member
      have never : ∀ cpu, (before.worker cpu).unblocks = false := fun cpu => by
        by_contra unblocks
        rw [Bool.not_eq_false] at unblocks
        rw [tracked.unblocks cpu unblocks] at free
        cases free
      rcases tracked.kept free entry member with queued | taken | leaked
      · rcases kept_queue move queued with queued | taken
        · exact .inl queued
        · exact .inr (.inl taken)
      · exact .inr (kept_task never move taken)
      · refine .inr (.inr ?_)
        rcases leaked_workerMove move with same | ⟨task, _, _, grown⟩
        · rw [same]
          exact leaked
        · rw [grown]
          exact List.mem_append_left _ leaked
  · obtain ⟨workerEq, _, change⟩ := controllerMove_frame move
    have leakedEq := controllerMove_leaked move
    refine ⟨?_, ?_, ?_⟩
    · rw [leakedEq]
      intro task member
      obtain ⟨⟨cpu, accepted⟩, nothing⟩ := tracked.leaked task member
      refine ⟨⟨cpu, ?_⟩, nothing⟩
      rcases change with ⟨acceptedEq, _⟩ | ⟨_, _, _, acceptedEq, _⟩
      · rw [acceptedEq]
        exact accepted
      · rw [acceptedEq]
        exact List.mem_append_left _ accepted
    · rw [workerEq]
      exact tracked.unblocks
    · intro free entry member
      rw [workerEq, leakedEq]
      have old : entry ∈ before.accepted →
          after.commandQ entry.1 = some (some entry.2) ∨
            (before.worker entry.1).task? = some entry.2 ∨ entry.2 ∈ before.leaked := by
        intro member
        rcases tracked.kept free entry member with queued | rest
        · exact .inl (controllerMove_queue move queued)
        · exact .inr rest
      rcases change with ⟨acceptedEq, _⟩ | ⟨scan, cpu, _, acceptedEq, queueEq⟩
      · rw [acceptedEq] at member
        exact old member
      · rw [acceptedEq] at member
        rcases List.mem_append.mp member with earlier | new
        · exact old earlier
        · rw [List.mem_singleton.mp new, queueEq]
          exact .inl (Function.update_self _ _ _)

theorem tracked_reachable (reachable : Reachable config loads system) : Tracked config system := by
  induction reachable with
  | refl => exact tracked_start
  | tail earlier step inductionHypothesis =>
    exact tracked_step (scheduled_reachable earlier) inductionHypothesis step

/-! ### Nothing is reserved at rest, or something was leaked -/

theorem WorkerState.hold_of_betweenTasks {state : WorkerState Number}
    (idle : state.betweenTasks) :
    state.hold = none ∧ state.inLock = false ∧ state.task? = none := by
  cases state <;> first | exact ⟨rfl, rfl, rfl⟩ | cases idle

theorem ControllerState.hold_of_betweenBenchmarks {state : ControllerState Number}
    (idle : state.betweenBenchmarks) : state.hold = none := by
  cases state <;> first | rfl | cases idle

theorem WorkerState.task?_of_hold {state : WorkerState Number} {hold : Hold Nat Cpu}
    (found : state.hold = some hold) : ∃ task, state.task? = some task := by
  cases state <;> first | exact ⟨_, rfl⟩ | cases found

/-- In a system at rest only tasks that ended without unblocking can hold anything. -/
theorem Quiescent.leaked_of_hold (quiescent : Quiescent config system)
    (scheduled : Scheduled config system) {place : Place} {hold : Hold Nat Cpu}
    (found : system.ledger.hold place = some hold) :
    ∃ task ∈ system.leaked, hold = task.hold := by
  cases place with
  | controller =>
    rw [show system.ledger.hold .controller = none from
      ControllerState.hold_of_betweenBenchmarks quiescent.controller] at found
    cases found
  | queue cpu =>
    change queueHold (system.commandQ cpu) = some hold at found
    obtain ⟨task, queued, -⟩ := queueHold_eq_some found
    have known := (scheduled.accepted _ (scheduled.queued cpu task queued)).workers.2 cpu
      List.mem_cons_self
    exact absurd queued (quiescent.queues cpu known task)
  | worker cpu =>
    change (system.worker cpu).hold = some hold at found
    obtain ⟨task, taken⟩ := WorkerState.task?_of_hold found
    have known := (scheduled.accepted _ (scheduled.taken cpu task taken)).workers.2 cpu
      List.mem_cons_self
    rw [(WorkerState.hold_of_betweenTasks (quiescent.workers cpu known)).1] at found
    cases found
  | leaked index =>
    obtain ⟨task, atIndex, rfl⟩ := Option.map_eq_some_iff.mp found
    exact ⟨task, List.mem_of_getElem? atIndex, rfl⟩

/-- In a reachable state at rest, nothing is reserved exactly when affinity is set or no accepted
run had extra workers. -/
theorem unreserved_iff_givesBack (reachable : Reachable config loads system)
    (quiescent : Quiescent config system) :
    Unreserved config system ↔ GivesBack config system := by
  have owned := owned_reachable reachable
  have scheduled := scheduled_reachable reachable
  have tracked := tracked_reachable reachable
  constructor
  · intro unreserved
    by_contra keeps
    rw [GivesBack, not_or] at keeps
    obtain ⟨free, keeps⟩ := keeps
    refine keeps fun entry member => ?_
    by_contra extras
    obtain ⟨extra, isExtra⟩ := List.exists_mem_of_ne_nil _ extras
    have ok := scheduled.accepted entry member
    have idle := quiescent.workers entry.1 (ok.workers.2 _ List.mem_cons_self)
    rcases tracked.kept (Bool.eq_false_iff.mpr free) entry member with queued | taken | leaked
    · exact quiescent.queues entry.1 (ok.workers.2 _ List.mem_cons_self) entry.2 queued
    · rw [(WorkerState.hold_of_betweenTasks idle).2.2] at taken
      cases taken
    · obtain ⟨index, bound, atIndex⟩ := List.mem_iff_getElem.mp leaked
      have found : system.ledger.hold (.leaked index) = some entry.2.hold := by
        show system.leaked[index]?.map _ = _
        rw [List.getElem?_eq_getElem bound, atIndex]
        rfl
      have up := (owned.balanced.flag extra).mpr ⟨_, _, found, isExtra⟩
      have down := (unreserved extra (ok.workers.2 _ (List.mem_cons_of_mem _ isExtra))).1
      cases up.symm.trans down
  · intro givesBack cpu member
    have nothing : ∀ place hold, system.ledger.hold place = some hold → hold.claims = [] := by
      intro place hold found
      obtain ⟨task, leaked, rfl⟩ := quiescent.leaked_of_hold scheduled found
      obtain ⟨⟨main, accepted⟩, alone⟩ := tracked.leaked task leaked
      have noExtras : task.extraWorkers = [] := by
        rcases givesBack with affine | none
        · exact alone affine
        · exact none _ accepted
      show task.extraWorkers ++ [] = []
      rw [noExtras]
      rfl
    refine ⟨?_, ?_⟩
    · by_contra up
      rw [Bool.not_eq_false] at up
      obtain ⟨place, hold, found, flagged⟩ := (owned.balanced.flag cpu).mp up
      have claimed := Hold.mem_claims_of_flagged flagged
      rw [nothing place hold found] at claimed
      cases claimed
    · have guarded := owned.guarded cpu
      rw [(WorkerState.hold_of_betweenTasks (quiescent.workers cpu member)).2.1] at guarded
      cases locked : system.lock cpu with
      | none => rfl
      | some holder =>
        cases holder with
        | worker owner =>
          rw [locked] at guarded
          cases guarded
        | reservation serial =>
          have reserved : system.ledger.reserved cpu = some serial := by
            show reservedFor (system.lock cpu) = _
            rw [locked]
            rfl
          obtain ⟨place, hold, found, _, claimed⟩ :=
            (owned.balanced.reserved cpu serial).mp reserved
          rw [nothing place hold found] at claimed
          cases claimed

/-! ### With and without affinity -/

/-- One run of two threads, from its acceptance to the end of the worker's loop body. -/
def oneRun (ofWorker : Nat) : List (Action Nat) :=
  .controller (.pass [twoThreads] [1, 2, 3, 4]) ::
    (controllerSteps 5 ++ workerSteps 2 ofWorker ++ workerSteps 1 1 ++ workerSteps 3 1 ++
      workerSteps 4 1)

/-- Whether a system of four workers has come to rest after a pass. -/
def atRest (system : System Nat) : Bool :=
  (match system.controller with
    | .scheduling [] _ => true
    | _ => false) &&
  [1, 2, 3, 4].all fun cpu =>
    (system.commandQ cpu).isNone &&
      match system.worker cpu with
      | .waiting => true
      | _ => false

theorem quiescent_of_atRest {cpuAffinity : Bool} {system : System Nat}
    (rest : atRest system = true) : Quiescent (fourWorkers cpuAffinity) system := by
  rw [atRest, Bool.and_eq_true, List.all_eq_true] at rest
  obtain ⟨controller, workers⟩ := rest
  refine ⟨?_, ?_, ?_⟩
  · split at controller
    · rename_i state
      rw [state]
      trivial
    · cases controller
  · intro cpu member task queued
    have idle := workers cpu member
    rw [queued] at idle
    cases idle
  · intro cpu member
    have idle := workers cpu member
    rw [Bool.and_eq_true] at idle
    have waits := idle.2
    split at waits
    · rename_i state
      rw [state]
      trivial
    · cases waits

/-- With affinity, a run of two threads ends with every worker free. -/
theorem unreserved_oneRun : ∃ system, Reachable (fourWorkers true) loadsNothing system ∧
    Quiescent (fourWorkers true) system ∧ system.accepted.length = 1 ∧
    Unreserved (fourWorkers true) system := by
  obtain ⟨system, reachable, observed⟩ := reachable_of_observed (show
    (runActions (fourWorkers true) loadsNothing (oneRun 11) System.start).any (fun system =>
      atRest system && system.accepted.length == 1) = true by decide +kernel)
  rw [Bool.and_eq_true, beq_iff_eq] at observed
  have quiescent : Quiescent (fourWorkers true) system := quiescent_of_atRest observed.1
  exact ⟨system, reachable, quiescent, observed.2,
    (unreserved_iff_givesBack reachable quiescent).mpr (.inl rfl)⟩

/-- Without affinity the same run leaves worker `1` reserved. -/
theorem not_unreserved_without_affinity :
    ∃ system, Reachable (fourWorkers false) loadsNothing system ∧
      Quiescent (fourWorkers false) system ∧ ¬ Unreserved (fourWorkers false) system := by
  obtain ⟨system, reachable, observed⟩ := reachable_of_observed (show
    (runActions (fourWorkers false) loadsNothing (oneRun 7) System.start).any (fun system =>
      atRest system && system.inUseAsExtraWorker 1) = true by decide +kernel)
  rw [Bool.and_eq_true] at observed
  refine ⟨system, reachable, quiescent_of_atRest observed.1, fun unreserved => ?_⟩
  have down := (unreserved 1 (by decide)).1
  rw [observed.2] at down
  cases down

end Fleetbench.Parallel
