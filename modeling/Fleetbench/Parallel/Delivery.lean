/-
This file follows every accepted run to its result. A worker posts the results
of its runs in the order in which it accepted them, the controller returns them
in the order in which they were posted, and nothing is posted or returned that
was not accepted. Runs are numbered as they are accepted, so no two of them
write to the same file.
-/

import Fleetbench.Parallel.Exclusivity
import Mathlib.Data.List.ReduceOption

namespace Fleetbench.Parallel

open Library

variable {Number : Type} {config : Config} {loads : String → Option (Value Number)}
  {before after system : System Number} {cpu : Cpu}

/-! ### Numbers, paths and rejections -/

/-- The run the controller is looking for CPUs for. -/
def ControllerState.run? : ControllerState Number → Option Run
  | .scanning scan => some scan.run
  | .blocking scan _ => some scan.run
  | .offering scan _ => some scan.run
  | .abandoning scan _ => some scan.run
  | .unlocking scan _ _ => some scan.run
  | _ => none

/-- The workers to which the current run may still be offered. -/
def ControllerState.remaining : ControllerState Number → List Cpu
  | .scanning scan => scan.todo
  | .blocking scan _ => scan.todo
  | .offering scan cpu => cpu :: scan.todo
  | _ => []

/-- Runs are numbered in the order in which they are built; those that were accepted have the
paths of an initial stretch of run numbers, and none was accepted where it was rejected. -/
structure Numbered (config : Config) (system : System Number) : Prop where
  increasing : system.accepted.Pairwise fun first second =>
    first.2.run.serial < second.2.run.serial
  built : ∀ entry ∈ system.accepted, entry.2.run.serial < system.created
  rejectedBuilt : ∀ entry ∈ system.rejected, entry.2.serial < system.created
  current : ∀ run, system.controller.run? = some run → run.serial < system.created ∧
    run.outFile = outFilePath config.tempRoot system.nextRunId ∧
    ∀ entry ∈ system.accepted, entry.2.run.serial < run.serial
  paths : system.accepted.map (·.2.run.outFile) =
    (List.range system.nextRunId).map (outFilePath config.tempRoot)
  apart : ∀ accepted ∈ system.accepted, ∀ rejected ∈ system.rejected,
    accepted.2.run.serial = rejected.2.serial → accepted.1 ≠ rejected.1
  untried : ∀ run, system.controller.run? = some run → ∀ rejected ∈ system.rejected,
    rejected.2.serial = run.serial → rejected.1 ∉ system.controller.remaining

theorem numbered_start : Numbered config (System.start : System Number) where
  increasing := .nil
  built := fun _ member => by cases member
  rejectedBuilt := fun _ member => by cases member
  current := fun _ running => by cases running
  paths := rfl
  apart := fun _ member => by cases member
  untried := fun _ running => by cases running

/-- A step that leaves the books of the controller alone, or only ends the current run. -/
theorem Numbered.same (numbered : Numbered config before)
    (acceptedEq : after.accepted = before.accepted) (rejectedEq : after.rejected = before.rejected)
    (createdEq : after.created = before.created) (nextEq : after.nextRunId = before.nextRunId)
    (run : ∀ run, after.controller.run? = some run → before.controller.run? = some run ∧
      after.controller.remaining ⊆ before.controller.remaining) : Numbered config after := by
  refine ⟨?_, ?_, ?_, ?_, ?_, ?_, ?_⟩
  · rw [acceptedEq]
    exact numbered.increasing
  · rw [acceptedEq, createdEq]
    exact numbered.built
  · rw [rejectedEq, createdEq]
    exact numbered.rejectedBuilt
  · intro current running
    rw [acceptedEq, createdEq, nextEq]
    exact numbered.current current (run current running).1
  · rw [acceptedEq, nextEq]
    exact numbered.paths
  · rw [acceptedEq, rejectedEq]
    exact numbered.apart
  · intro current running rejected member same inRemaining
    rw [rejectedEq] at member
    exact numbered.untried current (run current running).1 rejected member same
      ((run current running).2 inRemaining)

/-- Rejecting the current run at a worker that will not be tried again. -/
theorem Numbered.reject (numbered : Numbered config before) {run : Run} {todo : List Cpu}
    (running : before.controller.run? = some run)
    (remaining : before.controller.remaining = cpu :: todo) (once : cpu ∉ todo)
    (acceptedEq : after.accepted = before.accepted)
    (rejectedEq : after.rejected = before.rejected ++ [(cpu, run)])
    (createdEq : after.created = before.created) (nextEq : after.nextRunId = before.nextRunId)
    (runEq : after.controller.run? = some run) (remainingEq : after.controller.remaining = todo) :
    Numbered config after := by
  have current := numbered.current run running
  refine ⟨?_, ?_, ?_, ?_, ?_, ?_, ?_⟩
  · rw [acceptedEq]
    exact numbered.increasing
  · rw [acceptedEq, createdEq]
    exact numbered.built
  · rw [rejectedEq, createdEq]
    intro entry member
    rcases List.mem_append.mp member with old | new
    · exact numbered.rejectedBuilt entry old
    · rw [List.mem_singleton.mp new]
      exact current.1
  · intro other running'
    rw [runEq] at running'
    cases running'
    rw [acceptedEq, createdEq, nextEq]
    exact current
  · rw [acceptedEq, nextEq]
    exact numbered.paths
  · rw [acceptedEq, rejectedEq]
    intro accepted member rejected member' same
    rcases List.mem_append.mp member' with old | new
    · exact numbered.apart accepted member rejected old same
    · rw [List.mem_singleton.mp new] at same
      exact absurd same (Nat.ne_of_lt (current.2.2 accepted member))
  · intro other running' rejected member same inRemaining
    rw [runEq] at running'
    cases running'
    rw [remainingEq] at inRemaining
    rw [rejectedEq] at member
    rcases List.mem_append.mp member with old | new
    · refine numbered.untried run running rejected old same ?_
      rw [remaining]
      exact List.mem_cons_of_mem _ inRemaining
    · rw [List.mem_singleton.mp new] at inRemaining
      exact once inRemaining

theorem Numbered.build (numbered : Numbered config before) {run : Run}
    (serialEq : run.serial = before.created)
    (pathEq : run.outFile = outFilePath config.tempRoot before.nextRunId)
    (acceptedEq : after.accepted = before.accepted) (rejectedEq : after.rejected = before.rejected)
    (createdEq : after.created = before.created + 1) (nextEq : after.nextRunId = before.nextRunId)
    (runEq : after.controller.run? = some run) : Numbered config after := by
  refine ⟨?_, ?_, ?_, ?_, ?_, ?_, ?_⟩
  · rw [acceptedEq]
    exact numbered.increasing
  · rw [acceptedEq, createdEq]
    exact fun entry member => Nat.lt_succ_of_lt (numbered.built entry member)
  · rw [rejectedEq, createdEq]
    exact fun entry member => Nat.lt_succ_of_lt (numbered.rejectedBuilt entry member)
  · intro other running
    rw [runEq] at running
    cases running
    rw [acceptedEq, createdEq, nextEq, serialEq]
    exact ⟨Nat.lt_succ_self _, pathEq, numbered.built⟩
  · rw [acceptedEq, nextEq]
    exact numbered.paths
  · rw [acceptedEq, rejectedEq]
    exact numbered.apart
  · intro other running rejected member same
    rw [runEq] at running
    cases running
    rw [rejectedEq] at member
    rw [serialEq] at same
    exact absurd same (Nat.ne_of_lt (numbered.rejectedBuilt rejected member))

theorem Numbered.accept (numbered : Numbered config before) {run : Run} {extras todo : List Cpu}
    (running : before.controller.run? = some run)
    (remaining : before.controller.remaining = cpu :: todo)
    (acceptedEq : after.accepted = before.accepted ++ [(cpu, ⟨run, extras⟩)])
    (rejectedEq : after.rejected = before.rejected) (createdEq : after.created = before.created)
    (nextEq : after.nextRunId = before.nextRunId + 1)
    (runEq : after.controller.run? = none) : Numbered config after := by
  have current := numbered.current run running
  refine ⟨?_, ?_, ?_, ?_, ?_, ?_, ?_⟩
  · rw [acceptedEq, List.pairwise_append]
    refine ⟨numbered.increasing, List.pairwise_singleton _ _, fun entry member other new => ?_⟩
    rw [List.mem_singleton.mp new]
    exact current.2.2 entry member
  · rw [acceptedEq, createdEq]
    intro entry member
    rcases List.mem_append.mp member with old | new
    · exact numbered.built entry old
    · rw [List.mem_singleton.mp new]
      exact current.1
  · rw [rejectedEq, createdEq]
    exact numbered.rejectedBuilt
  · intro other impossible
    rw [runEq] at impossible
    cases impossible
  · rw [acceptedEq, nextEq, List.map_append, numbered.paths, List.range_succ, List.map_append]
    show _ ++ [run.outFile] = _
    rw [current.2.1]
    rfl
  · rw [acceptedEq, rejectedEq]
    intro accepted member rejected member' same
    rcases List.mem_append.mp member with old | new
    · exact numbered.apart accepted old rejected member' same
    · rw [List.mem_singleton.mp new] at same ⊢
      intro here
      refine numbered.untried run running rejected member' same.symm ?_
      rw [remaining, ← here]
      exact List.mem_cons_self
  · intro other impossible
    rw [runEq] at impossible
    cases impossible

/-- A worker leaves the books of the controller alone. -/
theorem workerMove_books (move : WorkerMove config loads cpu before after) :
    after.rejected = before.rejected ∧ after.created = before.created ∧
      after.nextRunId = before.nextRunId ∧ after.returned = before.returned := by
  cases move <;> exact ⟨rfl, rfl, rfl, rfl⟩

theorem numbered_controllerMove (scheduled : Scheduled config before)
    (numbered : Numbered config before) (move : ControllerMove config before after) :
    Numbered config after := by
  have ok := scheduled.controller
  have ends : after.controller.run? = none → ∀ run, after.controller.run? = some run →
      before.controller.run? = some run ∧
        after.controller.remaining ⊆ before.controller.remaining := by
    intro ended run running
    rw [ended] at running
    cases running
  cases move with
  | build benchmark benchmarks leastBusyCpus state =>
    exact numbered.build rfl rfl rfl rfl rfl rfl rfl
  | exhaust scan state none =>
    refine numbered.same rfl rfl rfl rfl fun run running => ?_
    rw [state]
    exact ⟨running, List.nil_subset _⟩
  | block scan cpu todo state first more free =>
    refine numbered.same rfl rfl rfl rfl fun run running => ?_
    rw [state]
    refine ⟨running, ?_⟩
    show todo ⊆ scan.todo
    rw [first]
    exact List.subset_cons_self _ _
  | skip scan cpu todo state first more held =>
    refine numbered.same rfl rfl rfl rfl fun run running => ?_
    rw [state]
    refine ⟨running, ?_⟩
    show todo ⊆ scan.todo
    rw [first]
    exact List.subset_cons_self _ _
  | rejectInUse scan cpu todo state first last inUse =>
    rw [state] at ok
    have distinct := ok.workers.1
    rw [first] at distinct
    have once := (List.nodup_cons.mp (List.Nodup.of_append_right distinct)).1
    refine numbered.reject (by rw [state]; rfl) (by rw [state]; exact first) once
      rfl rfl rfl rfl rfl rfl
  | offer scan cpu todo state first last idle =>
    refine numbered.same rfl rfl rfl rfl fun run running => ?_
    rw [state]
    refine ⟨running, ?_⟩
    show cpu :: todo ⊆ scan.todo
    rw [first]
    exact List.Subset.refl _
  | reserve scan cpu state =>
    refine numbered.same rfl rfl rfl rfl fun run running => ?_
    rw [state]
    exact ⟨running, List.Subset.refl _⟩
  | rejectFull scan cpu state full =>
    rw [state] at ok
    have once := (List.nodup_cons.mp (List.Nodup.of_append_right ok.1.workers.1)).1
    exact numbered.reject (by rw [state]; rfl) (by rw [state]; rfl) once rfl rfl rfl rfl rfl rfl
  | accept scan cpu state empty =>
    exact numbered.accept (by rw [state]; rfl) (by rw [state]; rfl) rfl rfl rfl rfl rfl
  | unblock scan extra todo state =>
    refine numbered.same rfl rfl rfl rfl fun run running => ?_
    rw [state]
    exact ⟨running, List.nil_subset _⟩
  | unlock scan extra todo state held =>
    refine numbered.same rfl rfl rfl rfl fun run running => ?_
    rw [state]
    exact ⟨running, List.nil_subset _⟩
  | _ => exact numbered.same rfl rfl rfl rfl (ends rfl)

theorem numbered_step (scheduled : Scheduled config before) (numbered : Numbered config before)
    (step : Step config loads before after) : Numbered config after := by
  obtain ⟨cpu, _, move⟩ | move := step.cases
  · obtain ⟨acceptedEq, controllerEq⟩ := accepted_workerMove move
    obtain ⟨rejectedEq, createdEq, nextEq, _⟩ := workerMove_books move
    refine numbered.same acceptedEq rejectedEq createdEq nextEq fun run running => ?_
    rw [controllerEq] at running ⊢
    exact ⟨running, List.Subset.refl _⟩
  · exact numbered_controllerMove scheduled numbered move

theorem numbered_reachable (reachable : Reachable config loads system) :
    Numbered config system := by
  induction reachable with
  | refl => exact numbered_start
  | tail earlier step inductionHypothesis =>
    exact numbered_step (scheduled_reachable earlier) inductionHypothesis step

/-! ### From acceptance to the result -/

/-- The tasks a worker has accepted, in order. -/
def System.acceptedBy (system : System Number) (cpu : Cpu) : List RunAndExtraWorkers :=
  (system.accepted.filter fun entry => entry.1 = cpu).map (·.2)

/-- The task a worker has taken and whose result it has not posted. -/
def WorkerState.inFlight : WorkerState Number → List RunAndExtraWorkers
  | .acquiring task => [task]
  | .widening task => [task]
  | .executing task => [task]
  | .posting task _ => [task]
  | .raising task => [task]
  | .dead task => [task]
  | _ => []

def queuedTasks : Option (Option RunAndExtraWorkers) → List RunAndExtraWorkers
  | some (some task) => [task]
  | _ => []

/-- The results of a worker that the controller has taken from the queue and not returned yet. -/
def ControllerState.inHand (cpu : Cpu) : ControllerState Number → List (Delivery Number)
  | .draining results (current :: _) => if current = cpu then results else []
  | .collecting results current _ => if current = cpu then results else []
  | _ => []

/-- Every accepted task is posted, in flight or queued, in that order; every posted result is
returned, in the controller's hand or in the result queue, in that order; and every posted result
is what `Execute` returned for its run. -/
structure Delivered (loads : String → Option (Value Number)) (system : System Number) : Prop where
  tasks : ∀ cpu, system.acceptedBy cpu = (system.posted cpu).map (·.task) ++
    ((system.worker cpu).inFlight ++ queuedTasks (system.commandQ cpu))
  results : ∀ cpu, system.posted cpu = system.returned cpu ++
    (system.controller.inHand cpu ++ (system.resultQ cpu).reduceOption)
  genuine : ∀ cpu, ∀ delivery ∈ system.posted cpu,
    ∃ outcome, delivery.task.run.execute loads outcome = some delivery.result
  posting : ∀ cpu task result, system.worker cpu = .posting task result →
    ∃ outcome, task.run.execute loads outcome = some result

theorem delivered_start : Delivered loads (System.start : System Number) where
  tasks := fun _ => rfl
  results := fun _ => rfl
  genuine := fun _ _ member => by cases member
  posting := fun _ _ _ impossible => by cases impossible

theorem Delivered.tasks_same (delivered : Delivered loads before) {state : WorkerState Number}
    (same : state.inFlight = (before.worker cpu).inFlight) (other : Cpu) :
    before.acceptedBy other = (before.posted other).map (·.task) ++
      ((Function.update before.worker cpu state other).inFlight ++
        queuedTasks (before.commandQ other)) := by
  by_cases here : other = cpu
  · rw [here, Function.update_self, same]
    exact delivered.tasks cpu
  · rw [Function.update_of_ne here]
    exact delivered.tasks other

/-- Posting moves the task in flight to the end of what is posted. -/
theorem Delivered.tasks_post (delivered : Delivered loads before) {task : RunAndExtraWorkers}
    {result : Result Number} (state : before.worker cpu = .posting task result)
    {idle : WorkerState Number} (finished : idle.inFlight = []) (other : Cpu) :
    before.acceptedBy other =
      (Function.update before.posted cpu (before.posted cpu ++ [⟨task, result⟩]) other).map
          (·.task) ++
        ((Function.update before.worker cpu idle other).inFlight ++
          queuedTasks (before.commandQ other)) := by
  by_cases here : other = cpu
  · rw [here, Function.update_self, Function.update_self, finished, delivered.tasks cpu, state,
      List.map_append, List.append_assoc]
    rfl
  · rw [Function.update_of_ne here, Function.update_of_ne here]
    exact delivered.tasks other

theorem tasks_workerMove (delivered : Delivered loads before)
    (move : WorkerMove config loads cpu before after) (other : Cpu) :
    after.acceptedBy other = (after.posted other).map (·.task) ++
      ((after.worker other).inFlight ++ queuedTasks (after.commandQ other)) := by
  cases move with
  | start state => exact delivered.tasks_same (by rw [state]; rfl) other
  | takeStop state queued =>
    have tasks := delivered.tasks other
    by_cases here : other = cpu
    · subst here
      show before.acceptedBy other = _
      rw [tasks, state, queued]
      simp [WorkerState.inFlight, queuedTasks]
    · show before.acceptedBy other = _
      rw [tasks]
      simp [Function.update_of_ne here]
  | takeTask task state queued =>
    have tasks := delivered.tasks other
    by_cases here : other = cpu
    · subst here
      show before.acceptedBy other = _
      rw [tasks, state, queued]
      simp [WorkerState.inFlight, queuedTasks]
    · show before.acceptedBy other = _
      rw [tasks]
      simp [Function.update_of_ne here]
  | acquire task state free => exact delivered.tasks_same (by rw [state]; rfl) other
  | widen task state => exact delivered.tasks_same (by rw [state]; rfl) other
  | executed task outcome result state returned =>
    exact delivered.tasks_same (by rw [state]; rfl) other
  | failed task outcome state raised => exact delivered.tasks_same (by rw [state]; rfl) other
  | post task result state widens => exact delivered.tasks_post state rfl other
  | postLast task result state stays => exact delivered.tasks_post state rfl other
  | narrow task state => exact delivered.tasks_same (by rw [state]; rfl) other
  | unblocked task state => exact delivered.tasks_same (by rw [state]; rfl) other
  | unblock task extra todo state => exact delivered.tasks_same (by rw [state]; rfl) other
  | unlock task extra todo state held => exact delivered.tasks_same (by rw [state]; rfl) other
  | release state => exact delivered.tasks_same (by rw [state]; rfl) other
  | stop state => exact delivered.tasks_same (by rw [state]; rfl) other
  | die task state => exact delivered.tasks_same (by rw [state]; rfl) other

theorem reduceOption_concat_some (queue : List (Option (Delivery Number)))
    (delivery : Delivery Number) :
    (queue ++ [some delivery]).reduceOption = queue.reduceOption ++ [delivery] := by
  rw [List.reduceOption_append]
  rfl

theorem results_workerMove (delivered : Delivered loads before)
    (move : WorkerMove config loads cpu before after) (other : Cpu) :
    after.posted other = after.returned other ++
      (after.controller.inHand other ++ (after.resultQ other).reduceOption) := by
  have results := delivered.results other
  have posts : ∀ delivery,
      Function.update before.posted cpu (before.posted cpu ++ [delivery]) other =
        before.returned other ++ (before.controller.inHand other ++
          (Function.update before.resultQ cpu (before.resultQ cpu ++ [some delivery])
            other).reduceOption) := by
    intro delivery
    by_cases here : other = cpu
    · subst here
      rw [Function.update_self, Function.update_self, results, reduceOption_concat_some]
      simp only [List.append_assoc]
    · rw [Function.update_of_ne here, Function.update_of_ne here]
      exact results
  cases move with
  | post task result state widens => exact posts ⟨task, result⟩
  | postLast task result state stays => exact posts ⟨task, result⟩
  | stop state =>
    show before.posted other = before.returned other ++ (before.controller.inHand other ++
      (Function.update before.resultQ cpu (before.resultQ cpu ++ [none]) other).reduceOption)
    by_cases here : other = cpu
    · subst here
      rw [Function.update_self, results, List.reduceOption_append]
      simp
    · rw [Function.update_of_ne here]
      exact results
  | _ => exact results

theorem posting_workerMove (delivered : Delivered loads before)
    (move : WorkerMove config loads cpu before after) (other : Cpu) (task : RunAndExtraWorkers)
    (result : Result Number) (posting : after.worker other = .posting task result) :
    ∃ outcome, task.run.execute loads outcome = some result := by
  have elsewhere : ∀ state : WorkerState Number,
      Function.update before.worker cpu state other = .posting task result →
      (state = .posting task result → ∃ outcome, task.run.execute loads outcome = some result) →
      ∃ outcome, task.run.execute loads outcome = some result := by
    intro state updated here
    by_cases same : other = cpu
    · subst same
      rw [Function.update_self] at updated
      exact here updated
    · rw [Function.update_of_ne same] at updated
      exact delivered.posting other task result updated
  cases move with
  | executed task' outcome result' state returned =>
    refine elsewhere _ posting fun same => ?_
    cases same
    exact ⟨outcome, returned⟩
  | start => exact elsewhere _ posting nofun
  | takeStop => exact elsewhere _ posting nofun
  | takeTask => exact elsewhere _ posting nofun
  | acquire => exact elsewhere _ posting nofun
  | widen => exact elsewhere _ posting nofun
  | failed => exact elsewhere _ posting nofun
  | post => exact elsewhere _ posting nofun
  | postLast => exact elsewhere _ posting nofun
  | narrow => exact elsewhere _ posting nofun
  | unblocked => exact elsewhere _ posting nofun
  | unblock => exact elsewhere _ posting nofun
  | unlock => exact elsewhere _ posting nofun
  | release => exact elsewhere _ posting nofun
  | stop => exact elsewhere _ posting nofun
  | die => exact elsewhere _ posting nofun

theorem genuine_workerMove (delivered : Delivered loads before)
    (move : WorkerMove config loads cpu before after) (other : Cpu) :
    ∀ delivery ∈ after.posted other,
      ∃ outcome, delivery.task.run.execute loads outcome = some delivery.result := by
  have posts : ∀ task result, before.worker cpu = .posting task result → ∀ delivery ∈
      Function.update before.posted cpu (before.posted cpu ++ [⟨task, result⟩]) other,
      ∃ outcome, delivery.task.run.execute loads outcome = some delivery.result := by
    intro task result state delivery member
    by_cases here : other = cpu
    · subst here
      rw [Function.update_self] at member
      rcases List.mem_append.mp member with old | new
      · exact delivered.genuine other delivery old
      · rw [List.mem_singleton.mp new]
        exact delivered.posting other task result state
    · rw [Function.update_of_ne here] at member
      exact delivered.genuine other delivery member
  cases move with
  | post task result state widens => exact posts task result state
  | postLast task result state stays => exact posts task result state
  | _ => exact delivered.genuine other

theorem acceptedBy_concat {entry : Cpu × RunAndExtraWorkers}
    (acceptedEq : after.accepted = before.accepted ++ [entry]) (other : Cpu) :
    after.acceptedBy other =
      before.acceptedBy other ++ if entry.1 = other then [entry.2] else [] := by
  rw [System.acceptedBy, acceptedEq, List.filter_append, List.map_append]
  refine congrArg (before.acceptedBy other ++ ·) ?_
  by_cases here : entry.1 = other
  · simp [here]
  · simp [here]

theorem tasks_controllerMove (delivered : Delivered loads before)
    (move : ControllerMove config before after) (other : Cpu) :
    after.acceptedBy other = (after.posted other).map (·.task) ++
      ((after.worker other).inFlight ++ queuedTasks (after.commandQ other)) := by
  have tasks := delivered.tasks other
  cases move with
  | accept scan cpu state empty =>
    rw [acceptedBy_concat rfl, tasks]
    by_cases here : cpu = other
    · subst here
      rw [empty, if_pos rfl]
      simp [queuedTasks]
    · have away : other ≠ cpu := Ne.symm here
      rw [if_neg here, List.append_nil]
      simp [Function.update_of_ne away]
  | stop cpu todo state empty =>
    show before.acceptedBy other = _
    rw [tasks]
    by_cases here : other = cpu
    · subst here
      rw [empty]
      simp [queuedTasks]
    · simp [Function.update_of_ne here]
  | _ => exact tasks

theorem inHand_draining_nil (todo : List Cpu) (other : Cpu) :
    (ControllerState.draining [] todo : ControllerState Number).inHand other = [] := by
  cases todo with
  | nil => rfl
  | cons current todo => exact ite_self _

section

variable {cpu other : Cpu} {results : List (Delivery Number)} {delivery : Delivery Number}
  {rest : List (Option (Delivery Number))}

/-- The controller has emptied the queue of a worker. -/
theorem results_handedOver (queued : before.resultQ cpu = none :: rest)
    (split : before.posted other = before.returned other ++
      ((if cpu = other then results else []) ++ (before.resultQ other).reduceOption)) :
    before.posted other =
      Function.update before.returned cpu (before.returned cpu ++ results) other ++
        ([] ++ (Function.update before.resultQ cpu rest other).reduceOption) := by
  by_cases here : cpu = other
  · subst here
    rw [Function.update_self, Function.update_self, split, queued]
    simp
  · rw [Function.update_of_ne (Ne.symm here), Function.update_of_ne (Ne.symm here), split]
    simp [here]

/-- The controller takes one more result of a worker in hand. -/
theorem results_taken (queued : before.resultQ cpu = some delivery :: rest)
    (split : before.posted other = before.returned other ++
      ((if cpu = other then results else []) ++ (before.resultQ other).reduceOption)) :
    before.posted other = before.returned other ++
      ((if cpu = other then results ++ [delivery] else []) ++
        (Function.update before.resultQ cpu rest other).reduceOption) := by
  by_cases here : cpu = other
  · subst here
    rw [Function.update_self, split, queued]
    simp
  · rw [Function.update_of_ne (Ne.symm here), split]
    simp [here]

end

theorem results_controllerMove (delivered : Delivered loads before)
    (move : ControllerMove config before after) (other : Cpu) :
    after.posted other = after.returned other ++
      (after.controller.inHand other ++ (after.resultQ other).reduceOption) := by
  have results := delivered.results other
  cases move with
  | scheduled _ state =>
    rw [state] at results
    rw [inHand_draining_nil]
    exact results
  | drainEmpty results' cpu todo state empty =>
    rw [state] at results
    rw [inHand_draining_nil]
    show before.posted other = Function.update before.returned cpu _ other ++ _
    by_cases here : other = cpu
    · subst here
      rw [Function.update_self, results]
      simp [ControllerState.inHand]
    · rw [Function.update_of_ne here, results]
      simp [ControllerState.inHand, Ne.symm here]
  | drainNone results' cpu todo rest state queued =>
    rw [state] at results
    rw [inHand_draining_nil]
    exact results_handedOver queued results
  | drain results' cpu todo delivery rest state queued =>
    rw [state] at results
    exact results_taken queued results
  | stop cpu todo state empty =>
    rw [state] at results
    rw [results]
    show _ = before.returned other ++ ((if cpu = other then [] else []) ++ _)
    rw [ite_self]
    rfl
  | collected results' cpu todo rest state queued =>
    rw [state] at results
    exact results_handedOver queued results
  | collect results' cpu todo delivery rest state queued =>
    rw [state] at results
    exact results_taken queued results
  | drained results' state => rwa [state] at results
  | expire state => rwa [state] at results
  | pass _ _ state _ => rwa [state] at results
  | build _ _ _ state => rwa [state] at results
  | exhaust _ state _ => rwa [state] at results
  | block _ _ _ state _ _ _ => rwa [state] at results
  | skip _ _ _ state _ _ _ => rwa [state] at results
  | rejectInUse _ _ _ state _ _ _ => rwa [state] at results
  | offer _ _ _ state _ _ _ => rwa [state] at results
  | reserve _ _ state => rwa [state] at results
  | rejectFull _ _ state _ => rwa [state] at results
  | accept _ _ state _ => rwa [state] at results
  | abandoned _ state => rwa [state] at results
  | unblock _ _ _ state => rwa [state] at results
  | unlock _ _ _ state _ => rwa [state] at results
  | stopped state => rwa [state] at results
  | joined state => rwa [state] at results
  | join _ _ state _ => rwa [state] at results

theorem controllerMove_posted (move : ControllerMove config before after) :
    after.posted = before.posted ∧ after.worker = before.worker := by
  cases move <;> exact ⟨rfl, rfl⟩

theorem delivered_step (delivered : Delivered loads before)
    (step : Step config loads before after) : Delivered loads after := by
  obtain ⟨cpu, _, move⟩ | move := step.cases
  · exact ⟨tasks_workerMove delivered move, results_workerMove delivered move,
      genuine_workerMove delivered move, posting_workerMove delivered move⟩
  · obtain ⟨postedEq, workerEq⟩ := controllerMove_posted move
    refine ⟨tasks_controllerMove delivered move, results_controllerMove delivered move, ?_, ?_⟩
    · rw [postedEq]
      exact delivered.genuine
    · rw [workerEq]
      exact delivered.posting

theorem delivered_reachable (reachable : Reachable config loads system) :
    Delivered loads system :=
  reachable_invariant delivered_start (fun _ _ delivered step => delivered_step delivered step)
    reachable

end Fleetbench.Parallel
