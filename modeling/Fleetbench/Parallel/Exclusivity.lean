/-
This file shows that runs do not share CPUs. The scheduling loop hands a run as
many distinct worker CPUs as its benchmark has threads; the ledger of
reservations then keeps them apart from the CPUs of every other run, however the
threads are interleaved and whatever becomes of the runs.
-/

import Fleetbench.Parallel.Ownership

namespace Fleetbench.Parallel

open Library

variable {Number : Type} {config : Config} {loads : String → Option (Value Number)}
  {before after system : System Number} {cpu : Cpu}

/-! ### What the scheduling loop knows about the CPUs it has seen -/

/-- CPUs of workers, without repetition. -/
def WorkerCpus (config : Config) (cpus : List Cpu) : Prop :=
  cpus.Nodup ∧ ∀ cpu ∈ cpus, cpu ∈ config.cpus

theorem WorkerCpus.sublist {cpus others : List Cpu} (known : WorkerCpus config cpus)
    (sublist : others.Sublist cpus) : WorkerCpus config others :=
  ⟨known.1.sublist sublist, fun cpu member => known.2 cpu (sublist.subset member)⟩

/-- The scan for a run: the CPUs reserved, the one being tried and those still to try are
different workers, and what is still required adds up to what the benchmark wants. -/
structure ScanOk (config : Config) (scan : Scan) (trying : List Cpu) : Prop where
  workers : WorkerCpus config (scan.extraWorkers ++ (trying ++ scan.todo))
  others : WorkerCpus config scan.leastBusyCpus
  threads : scan.extraWorkers.length + scan.requiredThreads =
    config.requiredThreads scan.run.benchmark
  started : scan.extraWorkers ≠ [] → 1 ≤ scan.requiredThreads

def ControllerOk (config : Config) : ControllerState Number → Prop
  | .scheduling _ leastBusyCpus => WorkerCpus config leastBusyCpus
  | .scanning scan => ScanOk config scan []
  | .blocking scan cpu => ScanOk config scan [cpu] ∧ 1 < scan.requiredThreads
  | .offering scan cpu => ScanOk config scan [cpu] ∧ scan.requiredThreads ≤ 1
  | .abandoning scan _ => WorkerCpus config scan.leastBusyCpus
  | .unlocking scan _ _ => WorkerCpus config scan.leastBusyCpus
  | _ => True

/-- A task on a worker has as many CPUs as its benchmark has threads, all different. -/
structure TaskOk (config : Config) (cpu : Cpu) (task : RunAndExtraWorkers) : Prop where
  workers : WorkerCpus config (cpu :: task.extraWorkers)
  threads : ((cpu :: task.extraWorkers).length : Int) =
    max (config.requiredThreads task.run.benchmark) 1

theorem ScanOk.taskOk {scan : Scan} (ok : ScanOk config scan [cpu])
    (last : scan.requiredThreads ≤ 1) : TaskOk config cpu ⟨scan.run, scan.extraWorkers⟩ := by
  have front : (scan.extraWorkers ++ [cpu]).Sublist (scan.extraWorkers ++ ([cpu] ++ scan.todo)) :=
    List.Sublist.append_left (List.sublist_append_left _ _) _
  have known := ok.workers.sublist front
  have rotated : (scan.extraWorkers ++ [cpu]).Perm (cpu :: scan.extraWorkers) :=
    List.perm_append_comm
  refine ⟨⟨rotated.nodup_iff.mp known.1, fun other member => ?_⟩, ?_⟩
  · exact known.2 other (rotated.mem_iff.mpr member)
  · have threads := ok.threads
    show ((scan.extraWorkers.length + 1 : Nat) : Int) =
      max (config.requiredThreads scan.run.benchmark) 1
    by_cases reserved : scan.extraWorkers = []
    · rw [reserved] at threads ⊢
      simp only [List.length_nil] at threads ⊢
      omega
    · have started := ok.started reserved
      have some : 0 < scan.extraWorkers.length := List.length_pos_iff.mpr reserved
      omega

theorem controllerOk_move (ok : ControllerOk config before.controller)
    (move : ControllerMove config before after) : ControllerOk config after.controller := by
  cases move with
  | expire state => trivial
  | pass benchmarks leastBusyCpus state all =>
    exact ⟨all.nodup_iff.mpr (List.nodup_cons.mp config.distinct).2,
      fun cpu member => all.mem_iff.mp member⟩
  | scheduled leastBusyCpus state => trivial
  | build benchmark benchmarks leastBusyCpus state =>
    rw [state] at ok
    exact ⟨ok, ok, by simp [System.nextRun], fun reserved => absurd rfl reserved⟩
  | exhaust scan state none =>
    rw [state] at ok
    exact ok.others
  | block scan cpu todo state first more free =>
    rw [state] at ok
    refine ⟨⟨?_, ok.others, ok.threads, ok.started⟩, more⟩
    have known := ok.workers
    rw [first] at known
    exact known
  | skip scan cpu todo state first more held =>
    rw [state] at ok
    refine ⟨ok.workers.sublist ?_, ok.others, ok.threads, ok.started⟩
    rw [first]
    exact List.Sublist.append_left (List.sublist_cons_self _ _) _
  | rejectInUse scan cpu todo state first last inUse =>
    rw [state] at ok
    refine ⟨ok.workers.sublist ?_, ok.others, ok.threads, ok.started⟩
    rw [first]
    exact List.Sublist.append_left (List.sublist_cons_self _ _) _
  | offer scan cpu todo state first last idle =>
    rw [state] at ok
    refine ⟨⟨?_, ok.others, ok.threads, ok.started⟩, last⟩
    have known := ok.workers
    rw [first] at known
    exact known
  | reserve scan cpu state =>
    rw [state] at ok
    obtain ⟨ok, more⟩ := ok
    refine ⟨?_, ok.others.sublist List.erase_sublist, ?_, fun _ => ?_⟩
    · have known := ok.workers
      rw [← List.append_assoc] at known
      exact known
    · have threads := ok.threads
      simp only [List.length_append, List.length_singleton]
      omega
    · show 1 ≤ scan.requiredThreads - 1
      omega
  | rejectFull scan cpu state full =>
    rw [state] at ok
    obtain ⟨ok, _⟩ := ok
    refine ⟨ok.workers.sublist ?_, ok.others, ok.threads, ok.started⟩
    exact List.Sublist.append_left (List.sublist_cons_self _ _) _
  | accept scan cpu state empty =>
    rw [state] at ok
    exact ok.1.others.sublist List.erase_sublist
  | abandoned scan state =>
    rw [state] at ok
    exact ok
  | unblock scan extra todo state =>
    rw [state] at ok
    exact ok
  | unlock scan extra todo state held =>
    rw [state] at ok
    exact ok
  | _ => trivial

/-! ### Where accepted tasks are -/

/-- The task a worker has taken and not finished. -/
def WorkerState.task? : WorkerState Number → Option RunAndExtraWorkers
  | .acquiring task => some task
  | .widening task => some task
  | .executing task => some task
  | .posting task _ => some task
  | .narrowing task => some task
  | .unblocking task _ => some task
  | .unlocking task _ _ => some task
  | .raising task => some task
  | .dead task => some task
  | _ => none

/-- The extra workers whose CPUs are in the affinity mask of a worker thread. -/
def WorkerState.widened : WorkerState Number → List Cpu
  | .executing task => task.extraWorkers
  | .posting task _ => task.extraWorkers
  | .narrowing task => task.extraWorkers
  | .raising task => task.extraWorkers
  | .dead task => task.extraWorkers
  | _ => []

/-- The invariant of this file. -/
structure Scheduled (config : Config) (system : System Number) : Prop where
  controller : ControllerOk config system.controller
  accepted : ∀ entry ∈ system.accepted, TaskOk config entry.1 entry.2
  queued : ∀ cpu task, system.commandQ cpu = some (some task) → (cpu, task) ∈ system.accepted
  taken : ∀ cpu task, (system.worker cpu).task? = some task → (cpu, task) ∈ system.accepted
  masked : config.cpuAffinity = true → ∀ cpu, system.worker cpu ≠ .starting →
    system.affinityMask cpu = some (cpu :: (system.worker cpu).widened)

theorem scheduled_start : Scheduled config (System.start : System Number) where
  controller := trivial
  accepted := fun _ member => by cases member
  queued := fun _ _ queued => by cases queued
  taken := fun _ _ taken => by cases taken
  masked := fun _ _ running => absurd rfl running

/-- A worker has the tasks it had, or has taken one from its queue. -/
theorem task?_workerMove (move : WorkerMove config loads cpu before after) {other : Cpu}
    {task : RunAndExtraWorkers} (taken : (after.worker other).task? = some task) :
    (before.worker other).task? = some task ∨ before.commandQ other = some (some task) := by
  have elsewhere : ∀ state : WorkerState Number,
      (Function.update before.worker cpu state other).task? = some task →
      (state.task? = some task → (before.worker cpu).task? = some task ∨
        before.commandQ cpu = some (some task)) →
      (before.worker other).task? = some task ∨ before.commandQ other = some (some task) := by
    intro state updated here
    by_cases same : other = cpu
    · subst same
      rw [Function.update_self] at updated
      exact here updated
    · rw [Function.update_of_ne same] at updated
      exact .inl updated
  cases move with
  | takeTask task' state queued =>
    refine elsewhere _ taken fun same => .inr ?_
    rw [queued]
    exact congrArg some same
  | start state => exact elsewhere _ taken fun impossible => by cases impossible
  | takeStop state _ => exact elsewhere _ taken fun impossible => by cases impossible
  | release state => exact elsewhere _ taken fun impossible => by cases impossible
  | stop state => exact elsewhere _ taken fun impossible => by cases impossible
  | postLast _ _ state _ => exact elsewhere _ taken fun impossible => by cases impossible
  | unblocked _ state => exact elsewhere _ taken fun impossible => by cases impossible
  | acquire _ state _ => exact elsewhere _ taken fun same => .inl (by rw [state]; exact same)
  | widen _ state => exact elsewhere _ taken fun same => .inl (by rw [state]; exact same)
  | executed _ _ _ state _ => exact elsewhere _ taken fun same => .inl (by rw [state]; exact same)
  | failed _ _ state _ => exact elsewhere _ taken fun same => .inl (by rw [state]; exact same)
  | post _ _ state _ => exact elsewhere _ taken fun same => .inl (by rw [state]; exact same)
  | narrow _ state => exact elsewhere _ taken fun same => .inl (by rw [state]; exact same)
  | unblock _ _ _ state => exact elsewhere _ taken fun same => .inl (by rw [state]; exact same)
  | unlock _ _ _ state _ => exact elsewhere _ taken fun same => .inl (by rw [state]; exact same)
  | die _ state => exact elsewhere _ taken fun same => .inl (by rw [state]; exact same)

/-- A worker only ever empties its command queue. -/
theorem commandQ_workerMove (move : WorkerMove config loads cpu before after) {other : Cpu}
    {command : Option RunAndExtraWorkers} (queued : after.commandQ other = some command) :
    before.commandQ other = some command := by
  have elsewhere : Function.update before.commandQ cpu none other = some command →
      before.commandQ other = some command := by
    intro updated
    by_cases same : other = cpu
    · subst same
      rw [Function.update_self] at updated
      cases updated
    · rwa [Function.update_of_ne same] at updated
  cases move with
  | takeStop => exact elsewhere queued
  | takeTask => exact elsewhere queued
  | _ => exact queued

theorem accepted_workerMove (move : WorkerMove config loads cpu before after) :
    after.accepted = before.accepted ∧ after.controller = before.controller := by
  cases move <;> exact ⟨rfl, rfl⟩

/-- Without extra workers, or without affinity, the mask stays as it is. -/
theorem extraWorkers_of_not_widens {task : RunAndExtraWorkers} (affine : config.cpuAffinity = true)
    (stays : config.widens task = false) : task.extraWorkers = [] := by
  rw [Config.widens, affine, Bool.and_true, Bool.not_eq_false', List.isEmpty_iff] at stays
  exact stays

theorem masked_workerMove (affine : config.cpuAffinity = true)
    (masked : ∀ cpu, before.worker cpu ≠ .starting →
      before.affinityMask cpu = some (cpu :: (before.worker cpu).widened))
    (move : WorkerMove config loads cpu before after) (other : Cpu)
    (running : after.worker other ≠ .starting) :
    after.affinityMask other = some (other :: (after.worker other).widened) := by
  have keeps : ∀ state : WorkerState Number, before.worker cpu ≠ .starting →
      state.widened = (before.worker cpu).widened →
      Function.update before.worker cpu state other ≠ .starting →
      before.affinityMask other =
        some (other :: (Function.update before.worker cpu state other).widened) := by
    intro state ready same running
    by_cases here : other = cpu
    · subst here
      rw [Function.update_self, same]
      exact masked other ready
    · rw [Function.update_of_ne here] at running ⊢
      exact masked other running
  have sets : ∀ (state : WorkerState Number) (mask : List Cpu), mask = cpu :: state.widened →
      Function.update before.worker cpu state other ≠ .starting →
      Function.update before.affinityMask cpu (some mask) other =
        some (other :: (Function.update before.worker cpu state other).widened) := by
    intro state mask same running
    by_cases here : other = cpu
    · subst here
      rw [Function.update_self, Function.update_self, same]
    · rw [Function.update_of_ne here] at running ⊢
      rw [Function.update_of_ne here]
      exact masked other running
  cases move with
  | start state =>
    simp only [affine, if_true] at running ⊢
    exact sets .waiting _ rfl running
  | takeStop state _ => exact keeps _ (by rw [state]; nofun) (by rw [state]; rfl) running
  | takeTask _ state _ => exact keeps _ (by rw [state]; nofun) (by rw [state]; rfl) running
  | acquire _ state _ => exact keeps _ (by rw [state]; nofun) (by rw [state]; rfl) running
  | widen task state =>
    simp only at running ⊢
    by_cases widens : config.widens task = true
    · rw [if_pos widens]
      exact sets (.executing task) _ rfl running
    · rw [if_neg widens]
      refine keeps _ (by rw [state]; nofun) ?_ running
      rw [state]
      exact extraWorkers_of_not_widens affine (Bool.eq_false_iff.mpr widens)
  | executed _ _ _ state _ => exact keeps _ (by rw [state]; nofun) (by rw [state]; rfl) running
  | failed _ _ state _ => exact keeps _ (by rw [state]; nofun) (by rw [state]; rfl) running
  | post _ _ state _ => exact keeps _ (by rw [state]; nofun) (by rw [state]; rfl) running
  | postLast task _ state stays =>
    refine keeps _ (by rw [state]; nofun) ?_ running
    rw [state]
    exact (extraWorkers_of_not_widens affine stays).symm
  | narrow task state => exact sets (.unblocking task task.extraWorkers) _ rfl running
  | unblocked _ state => exact keeps _ (by rw [state]; nofun) (by rw [state]; rfl) running
  | unblock _ _ _ state => exact keeps _ (by rw [state]; nofun) (by rw [state]; rfl) running
  | unlock _ _ _ state _ => exact keeps _ (by rw [state]; nofun) (by rw [state]; rfl) running
  | release state => exact keeps _ (by rw [state]; nofun) (by rw [state]; rfl) running
  | stop state => exact keeps _ (by rw [state]; nofun) (by rw [state]; rfl) running
  | die _ state => exact keeps _ (by rw [state]; nofun) (by rw [state]; rfl) running

/-- The controller touches no worker, and queues only what it accepts. -/
theorem controllerMove_frame (move : ControllerMove config before after) :
    after.worker = before.worker ∧ after.affinityMask = before.affinityMask ∧
      (after.accepted = before.accepted ∧ (∀ cpu task, after.commandQ cpu = some (some task) →
          before.commandQ cpu = some (some task)) ∨
        ∃ scan cpu, before.controller = .offering scan cpu ∧
          after.accepted = before.accepted ++ [(cpu, ⟨scan.run, scan.extraWorkers⟩)] ∧
          after.commandQ = Function.update before.commandQ cpu
            (some (some ⟨scan.run, scan.extraWorkers⟩))) := by
  cases move with
  | accept scan cpu state empty => exact ⟨rfl, rfl, .inr ⟨scan, cpu, state, rfl, rfl⟩⟩
  | stop cpu todo state empty =>
    refine ⟨rfl, rfl, .inl ⟨rfl, fun other task queued => ?_⟩⟩
    by_cases same : other = cpu
    · subst same
      rw [show ({ before with
        commandQ := Function.update before.commandQ other (some none)
        controller := .collecting [] other todo } : System Number).commandQ other = some none from
          Function.update_self _ _ _] at queued
      cases queued
    · exact (Function.update_of_ne same _ _).symm.trans queued
  | _ => exact ⟨rfl, rfl, .inl ⟨rfl, fun _ _ queued => queued⟩⟩

theorem scheduled_step (scheduled : Scheduled config before)
    (step : Step config loads before after) : Scheduled config after := by
  obtain ⟨cpu, _, move⟩ | move := step.cases
  · obtain ⟨acceptedEq, controllerEq⟩ := accepted_workerMove move
    refine ⟨?_, ?_, ?_, ?_, ?_⟩
    · rw [controllerEq]
      exact scheduled.controller
    · rw [acceptedEq]
      exact scheduled.accepted
    · intro other task queued
      rw [acceptedEq]
      exact scheduled.queued other task (commandQ_workerMove move queued)
    · intro other task taken
      rw [acceptedEq]
      rcases task?_workerMove move taken with before | queued
      · exact scheduled.taken other task before
      · exact scheduled.queued other task queued
    · intro affine other running
      exact masked_workerMove affine (scheduled.masked affine) move other running
  · obtain ⟨workerEq, maskEq, change⟩ := controllerMove_frame move
    refine ⟨controllerOk_move scheduled.controller move, ?_, ?_, ?_, ?_⟩
    · rcases change with ⟨acceptedEq, _⟩ | ⟨scan, cpu, state, acceptedEq, _⟩
      · rw [acceptedEq]
        exact scheduled.accepted
      · rw [acceptedEq]
        intro entry member
        rcases List.mem_append.mp member with old | new
        · exact scheduled.accepted entry old
        · rw [List.mem_singleton.mp new]
          have ok := scheduled.controller
          rw [state] at ok
          exact ok.1.taskOk ok.2
    · intro other task queued
      rcases change with ⟨acceptedEq, kept⟩ | ⟨scan, cpu, state, acceptedEq, queueEq⟩
      · rw [acceptedEq]
        exact scheduled.queued other task (kept other task queued)
      · rw [acceptedEq]
        rw [queueEq] at queued
        by_cases same : other = cpu
        · subst same
          rw [Function.update_self] at queued
          cases queued
          exact List.mem_append_right _ (List.mem_singleton_self _)
        · rw [Function.update_of_ne same] at queued
          exact List.mem_append_left _ (scheduled.queued other task queued)
    · intro other task taken
      rw [workerEq] at taken
      have old := scheduled.taken other task taken
      rcases change with ⟨acceptedEq, _⟩ | ⟨scan, cpu, state, acceptedEq, _⟩
      · rw [acceptedEq]
        exact old
      · rw [acceptedEq]
        exact List.mem_append_left _ old
    · intro affine other running
      rw [maskEq, workerEq]
      rw [workerEq] at running
      exact scheduled.masked affine other running

theorem scheduled_reachable (reachable : Reachable config loads system) :
    Scheduled config system :=
  reachable_invariant scheduled_start (fun _ _ scheduled step => scheduled_step scheduled step)
    reachable

/-! ### Exclusive use of CPUs -/

/-- The worker on `cpu` is inside `task.run.Execute()`. -/
def Executes (system : System Number) (cpu : Cpu) (task : RunAndExtraWorkers) : Prop :=
  system.worker cpu = .executing task

/-- The task is in the queue of the worker on `cpu`, or the worker has taken it and has not yet
unblocked any of its extra workers. -/
def Owns (system : System Number) (cpu : Cpu) (task : RunAndExtraWorkers) : Prop :=
  system.commandQ cpu = some (some task) ∨ (system.worker cpu).hold = some task.hold

/-- Exclusive use of CPUs in one state. -/
structure Exclusive (config : Config) (system : System Number) : Prop where
  disjoint : ∀ first second task other, first ≠ second → Executes system first task →
    Executes system second other →
    List.Disjoint (first :: task.extraWorkers) (second :: other.extraWorkers)
  spared : ∀ cpu task, Executes system cpu task →
    config.controllerCpu ∉ cpu :: task.extraWorkers
  bound : ∀ cpu task, Executes system cpu task →
    system.affinityMask cpu = some (cpu :: task.extraWorkers)
  threads : ∀ cpu task, (cpu, task) ∈ system.accepted → (cpu :: task.extraWorkers).Nodup ∧
    ((cpu :: task.extraWorkers).length : Int) = max (config.requiredThreads task.run.benchmark) 1
  reserved : ∀ cpu task, Owns system cpu task → ∀ extra ∈ task.extraWorkers,
    system.lock extra = some (.reservation task.run.serial) ∧
      system.inUseAsExtraWorker extra = true
  own : ∀ cpu task, Executes system cpu task → system.lock cpu = some (.worker cpu)
  unblocks : ∀ cpu task extra todo,
    system.worker cpu = .unblocking task (extra :: todo) ∨
      system.worker cpu = .unlocking task extra todo →
    system.lock extra = some (.reservation task.run.serial)
  abandons : ∀ scan extra todo,
    system.controller = .abandoning scan (extra :: todo) ∨
      system.controller = .unlocking scan extra todo →
    system.lock extra = some (.reservation scan.run.serial)

theorem Owned.holdAt (owned : Owned system) {task : RunAndExtraWorkers}
    (owns : Owns system cpu task) {extra : Cpu} (member : extra ∈ task.extraWorkers) :
    system.lock extra = some (.reservation task.run.serial) ∧
      system.inUseAsExtraWorker extra = true := by
  obtain ⟨place, found⟩ : ∃ place, system.ledger.hold place = some task.hold := by
    rcases owns with queued | taken
    · refine ⟨.queue cpu, ?_⟩
      show queueHold (system.commandQ cpu) = _
      rw [queued]
      rfl
    · exact ⟨.worker cpu, taken⟩
  exact ⟨owned.lock_of_reserved found (Hold.mem_claims_of_flagged member),
    (owned.balanced.flag extra).mpr ⟨place, _, found, member⟩⟩

theorem executes_owns {task : RunAndExtraWorkers} (executes : Executes system cpu task) :
    Owns system cpu task := by
  refine .inr ?_
  rw [executes]
  rfl

/-- Every reachable state of a system with CPU affinity uses its CPUs exclusively. -/
theorem exclusive_reachable (affine : config.cpuAffinity = true)
    (reachable : Reachable config loads system) : Exclusive config system := by
  have owned := owned_reachable reachable
  have scheduled := scheduled_reachable reachable
  have taskOk : ∀ cpu task, Executes system cpu task → TaskOk config cpu task := by
    intro cpu task executes
    refine scheduled.accepted (cpu, task) (scheduled.taken cpu task ?_)
    rw [executes]
    rfl
  have ownLock : ∀ cpu task, Executes system cpu task →
      system.lock cpu = some (.worker cpu) := by
    intro cpu task executes
    refine owned.lock_of_inLock ?_
    rw [executes]
    rfl
  refine ⟨?_, ?_, ?_, ?_, fun cpu task owns extra member => owned.holdAt owns member, ownLock,
    ?_, ?_⟩
  · intro first second task other different atFirst atSecond cpu inFirst inSecond
    have reservedFirst : cpu ∈ task.extraWorkers →
        system.lock cpu = some (.reservation task.run.serial) := fun member =>
      (owned.holdAt (executes_owns atFirst) member).1
    have reservedSecond : cpu ∈ other.extraWorkers →
        system.lock cpu = some (.reservation other.run.serial) := fun member =>
      (owned.holdAt (executes_owns atSecond) member).1
    rcases List.mem_cons.mp inFirst with rfl | inFirst <;>
      rcases List.mem_cons.mp inSecond with rfl | inSecond
    · exact different rfl
    · cases (ownLock _ _ atFirst).symm.trans (reservedSecond inSecond)
    · cases (ownLock _ _ atSecond).symm.trans (reservedFirst inFirst)
    · have firstHold : system.ledger.hold (.worker first) = some task.hold := by
        show (system.worker first).hold = _
        rw [atFirst]
        rfl
      have secondHold : system.ledger.hold (.worker second) = some other.hold := by
        show (system.worker second).hold = _
        rw [atSecond]
        rfl
      have same := owned.balanced.disjoint firstHold secondHold
        (Hold.mem_claims_of_flagged inFirst) (Hold.mem_claims_of_flagged inSecond)
      exact different (Place.worker.inj same)
  · intro cpu task executes member
    exact (List.nodup_cons.mp config.distinct).1 ((taskOk cpu task executes).workers.2 _ member)
  · intro cpu task executes
    have masked := scheduled.masked affine cpu (by rw [executes]; nofun)
    rw [executes] at masked
    exact masked
  · intro cpu task accepted
    have ok := scheduled.accepted (cpu, task) accepted
    exact ⟨ok.workers.1, ok.threads⟩
  · intro cpu task extra todo state
    rcases state with state | state
    · have found : system.ledger.hold (.worker cpu) =
          some ⟨task.run.serial, extra :: todo, none⟩ := by
        show (system.worker cpu).hold = _
        rw [state]
        rfl
      exact owned.lock_of_reserved found (Hold.mem_claims_of_flagged List.mem_cons_self)
    · have found : system.ledger.hold (.worker cpu) = some ⟨task.run.serial, todo, some extra⟩ := by
        show (system.worker cpu).hold = _
        rw [state]
        rfl
      exact owned.lock_of_reserved found (Hold.mem_claims_of_pending rfl)
  · intro scan extra todo state
    rcases state with state | state
    · have found : system.ledger.hold .controller =
          some ⟨scan.run.serial, extra :: todo, none⟩ := by
        show system.controller.hold = _
        rw [state]
        rfl
      exact owned.lock_of_reserved found (Hold.mem_claims_of_flagged List.mem_cons_self)
    · have found : system.ledger.hold .controller = some ⟨scan.run.serial, todo, some extra⟩ := by
        show system.controller.hold = _
        rw [state]
        rfl
      exact owned.lock_of_reserved found (Hold.mem_claims_of_pending rfl)

/-! ### A schedule with two runs at once -/

/-- Four workers and a benchmark with two threads. -/
def fourWorkers (cpuAffinity : Bool) : Config where
  controllerCpu := 0
  cpus := [1, 2, 3, 4]
  cpuAffinity
  benchmarkThreads := [("BM_Two", 2)]
  tempRoot := "/tmp"
  inhabited := by decide
  distinct := by decide

def twoThreads : Benchmark := ⟨"bench (BM_Two)", "BM_Two"⟩

/-- No output is ever parsed. -/
def loadsNothing : String → Option (Value Nat) := fun _ => none

/-- Steps of one worker, whose process fails if it executes a run. -/
def workerSteps (cpu : Cpu) (count : Nat) : List (Action Nat) :=
  List.replicate count (.worker cpu (.exited 1 "" "" 1 none))

def controllerSteps (count : Nat) : List (Action Nat) :=
  List.replicate count (.controller .expire)

/-- Both runs have been accepted and execute. -/
def bothExecute : List (Action Nat) :=
  .controller (.pass [twoThreads, twoThreads] [1, 2, 3, 4]) ::
    (controllerSteps 10 ++ workerSteps 2 4 ++ workerSteps 4 4)

theorem bothExecute_observed :
    (runActions (fourWorkers true) loadsNothing bothExecute System.start).any (fun system =>
      match system.worker 2, system.worker 4 with
      | .executing task, .executing other => task.extraWorkers = [1] && other.extraWorkers = [3]
      | _, _ => false) = true := by
  decide +kernel

/-- Two runs of two threads each execute at the same time, on four different CPUs. -/
theorem exclusive_bothExecute : ∃ system task other,
    Reachable (fourWorkers true) loadsNothing system ∧ Executes system 2 task ∧
      Executes system 4 other ∧ task.extraWorkers = [1] ∧ other.extraWorkers = [3] ∧
      Exclusive (fourWorkers true) system := by
  obtain ⟨system, reachable, observed⟩ := reachable_of_observed bothExecute_observed
  split at observed
  · rename_i task other atTwo atFour
    rw [Bool.and_eq_true, decide_eq_true_iff, decide_eq_true_iff] at observed
    exact ⟨system, task, other, reachable, atTwo, atFour, observed.1, observed.2,
      exclusive_reachable rfl reachable⟩
  · cases observed

end Fleetbench.Parallel
