/-
This file asks how a worker thread ends. `Worker.run` posts its `None` last, so
a thread that leaves the loop leaves the answer behind that `StopAndGetResults`
waits for. But `Execute` answers only a process that fails; any other trouble, a
missing or unreadable output for one, leaves it as an exception that ends the
thread, with its task unanswered and no `None`.
-/

import Fleetbench.Parallel.Progress

namespace Fleetbench.Parallel

open Library

variable {Number : Type} {config : Config} {loads : String → Option (Value Number)}
  {system : System Number} {cpu : Cpu}

/-! ### What an ended worker leaves behind -/

def WorkerState.ended : WorkerState Number → Bool
  | .exited => true
  | .dead _ => true
  | _ => false

/-- The tasks a worker has taken: those it accepted, but for the one in its queue. -/
def System.takenBy (system : System Number) (cpu : Cpu) : List RunAndExtraWorkers :=
  (system.acceptedBy cpu).filter fun task => system.commandQ cpu ≠ some (some task)

/-- The CPU is not reserved for the run of a task, though it may be for another. -/
def System.Unblocked (system : System Number) (task : RunAndExtraWorkers) (extra : Cpu) : Prop :=
  system.lock extra ≠ some (.reservation task.run.serial) ∧
    (system.inUseAsExtraWorker extra = true →
      ∃ serial, serial ≠ task.run.serial ∧ system.lock extra = some (.reservation serial))

/-- An ended worker has posted its `None`, which is in its queue until `StopAndGetResults` takes it
and returns; it has posted one result for each of the different tasks it took, and unblocked
their extra workers. -/
structure EndsCleanly (system : System Number) (cpu : Cpu) : Prop where
  sentinel : none ∈ system.resultQ cpu ∨ system.controller.stage cpu = .done
  answers : ∀ results todo, system.controller = .collecting results cpu todo →
    system.resultQ cpu ≠ []
  results : (system.posted cpu).map (·.task) = system.takenBy cpu
  once : ((system.takenBy cpu).map (·.run.serial)).Nodup
  unblocked : ∀ task ∈ system.takenBy cpu, ∀ extra ∈ task.extraWorkers,
    system.Unblocked task extra

/-! ### Who holds what -/

theorem ControllerState.owner_of_hold {state : ControllerState Number} {hold : Hold Nat Cpu}
    (found : state.hold = some hold) : ∃ run, state.run? = some run ∧ hold.owner = run.serial := by
  cases state <;> cases found <;> exact ⟨_, rfl, rfl⟩

theorem WorkerState.owner_of_hold {state : WorkerState Number} {hold : Hold Nat Cpu}
    (found : state.hold = some hold) :
    ∃ task, state.task? = some task ∧ hold.owner = task.run.serial := by
  cases state <;> cases found <;> exact ⟨_, rfl, rfl⟩

theorem mem_acceptedBy {task : RunAndExtraWorkers} :
    task ∈ system.acceptedBy cpu ↔ (cpu, task) ∈ system.accepted := by
  rw [System.acceptedBy, List.mem_map]
  constructor
  · rintro ⟨entry, member, rfl⟩
    obtain ⟨member, same⟩ := List.mem_filter.mp member
    rw [← of_decide_eq_true same]
    exact member
  · intro member
    exact ⟨_, List.mem_filter.mpr ⟨member, decide_eq_true rfl⟩, rfl⟩

/-- Two accepted tasks with one number are one, accepted by one worker. -/
theorem Numbered.unique (numbered : Numbered config system)
    {first second : Cpu × RunAndExtraWorkers}
    (isFirst : first ∈ system.accepted) (isSecond : second ∈ system.accepted)
    (same : first.2.run.serial = second.2.run.serial) : first = second := by
  have distinct : (system.accepted.map (·.2.run.serial)).Nodup := by
    rw [List.Nodup, List.pairwise_map]
    exact numbered.increasing.imp fun less => Nat.ne_of_lt less
  exact List.inj_on_of_nodup_map distinct isFirst isSecond same

/-- Once a worker has exited, nothing is reserved any more for the tasks it took, if affinity is
set. -/
theorem unblocked_of_exited (reachable : Reachable config loads system)
    (affine : config.cpuAffinity = true) (member : cpu ∈ config.cpus)
    (exited : system.worker cpu = .exited) {task : RunAndExtraWorkers}
    (accepted : (cpu, task) ∈ system.accepted) {extra : Cpu} (isExtra : extra ∈ task.extraWorkers) :
    system.Unblocked task extra := by
  have owned := owned_reachable reachable
  have scheduled := scheduled_reachable reachable
  have numbered := numbered_reachable reachable
  have tracked := tracked_reachable reachable
  have empty := commandQ_of_exited (handshake_reachable reachable) member exited
  have free : system.lock extra ≠ some (.reservation task.run.serial) := by
    intro locked
    have reserved : system.ledger.reserved extra = some task.run.serial := by
      show reservedFor (system.lock extra) = _
      rw [locked]
      rfl
    obtain ⟨place, hold, found, owner, claimed⟩ := (owned.balanced.reserved extra _).mp reserved
    cases place with
    | controller =>
      obtain ⟨run, running, isRun⟩ := ControllerState.owner_of_hold found
      have earlier := (numbered.current run running).2.2 _ accepted
      exact absurd (owner.symm.trans isRun) (Nat.ne_of_lt earlier)
    | queue main =>
      change queueHold (system.commandQ main) = some hold at found
      obtain ⟨other, queued, rfl⟩ := queueHold_eq_some found
      cases numbered.unique (scheduled.queued main other queued) accepted owner
      cases queued.symm.trans empty
    | worker main =>
      obtain ⟨other, taken, isOther⟩ := WorkerState.owner_of_hold found
      cases numbered.unique (scheduled.taken main other taken) accepted (isOther.symm.trans owner)
      rw [exited] at taken
      cases taken
    | leaked index =>
      obtain ⟨other, atIndex, rfl⟩ := Option.map_eq_some_iff.mp found
      obtain ⟨⟨main, wasAccepted⟩, alone⟩ := tracked.leaked other (List.mem_of_getElem? atIndex)
      cases numbered.unique wasAccepted accepted owner
      rw [alone affine] at isExtra
      cases isExtra
  refine ⟨free, fun up => ?_⟩
  obtain ⟨place, hold, found, flagged⟩ := (owned.balanced.flag extra).mp up
  have locked := owned.lock_of_reserved found (Hold.mem_claims_of_flagged flagged)
  refine ⟨hold.owner, fun same => free ?_, locked⟩
  rw [locked, same]

/-- Without affinity they stay reserved. -/
theorem not_unblocked_of_exited (reachable : Reachable config loads system)
    (loose : config.cpuAffinity = false) (member : cpu ∈ config.cpus)
    (exited : system.worker cpu = .exited) {task : RunAndExtraWorkers}
    (accepted : (cpu, task) ∈ system.accepted) {extra : Cpu} (isExtra : extra ∈ task.extraWorkers) :
    ¬ system.Unblocked task extra := by
  have empty := commandQ_of_exited (handshake_reachable reachable) member exited
  rcases (tracked_reachable reachable).kept loose _ accepted with queued | taken | leaked
  · cases queued.symm.trans empty
  · rw [exited] at taken
    cases taken
  · obtain ⟨index, inside, rfl⟩ := List.mem_iff_getElem.mp leaked
    have found : system.ledger.hold (.leaked index) = some system.leaked[index].hold := by
      show system.leaked[index]?.map _ = _
      rw [List.getElem?_eq_getElem inside]
      rfl
    exact fun unblocked => unblocked.1 ((owned_reachable reachable).lock_of_reserved found
      (Hold.mem_claims_of_flagged isExtra))

/-! ### When a worker ends cleanly -/

theorem takenBy_of_empty (empty : system.commandQ cpu = none) :
    system.takenBy cpu = system.acceptedBy cpu := by
  rw [System.takenBy, empty]
  exact List.filter_eq_self.mpr fun _ _ => rfl

/-- The `None` of a worker that has exited is there or was there. -/
theorem sentinel_of_exited (handshake : Handshake config system) (member : cpu ∈ config.cpus)
    (exited : system.worker cpu = .exited) :
    none ∈ system.resultQ cpu ∨ system.controller.stage cpu = .done := by
  have sentinel := handshake.sentinel cpu member
  rw [exited] at sentinel
  cases stage : system.controller.stage cpu with
  | unsent =>
    rw [stage] at sentinel
    cases sentinel.2.1
  | current =>
    rw [stage] at sentinel
    rcases sentinel with ⟨_, impossible, _⟩ | ⟨_, impossible, _⟩ | ⟨_, _, others, _, split⟩
    · cases impossible
    · cases impossible
    · rw [split]
      exact .inl (List.mem_append_right _ List.mem_cons_self)
  | done => exact .inr rfl

/-- A worker that has exited has ended cleanly exactly when affinity is set or none of its tasks
had extra workers. -/
theorem endsCleanly_of_exited (reachable : Reachable config loads system)
    (member : cpu ∈ config.cpus) (exited : system.worker cpu = .exited) :
    EndsCleanly system cpu ↔ config.cpuAffinity = true ∨
      ∀ task ∈ system.acceptedBy cpu, task.extraWorkers = [] := by
  have handshake := handshake_reachable reachable
  have empty := commandQ_of_exited handshake member exited
  constructor
  · intro clean
    by_contra leaks
    rw [not_or, Bool.not_eq_true] at leaks
    obtain ⟨loose, some⟩ := leaks
    refine some fun task accepted => List.eq_nil_iff_forall_not_mem.mpr fun extra isExtra => ?_
    refine not_unblocked_of_exited reachable loose member exited (mem_acceptedBy.mp accepted)
      isExtra (clean.unblocked task ?_ extra isExtra)
    rw [takenBy_of_empty empty]
    exact accepted
  · intro givesBack
    have posts := sentinel_of_exited handshake member exited
    refine ⟨posts, fun results todo state queue => ?_, ?_, ?_, ?_⟩
    · rcases posts with posted | done
      · rw [queue] at posted
        cases posted
      · rw [state, ControllerState.stage, if_pos rfl] at done
        cases done
    · have tasks := (delivered_reachable reachable).tasks cpu
      rw [exited, empty] at tasks
      rw [takenBy_of_empty empty, tasks]
      exact (List.append_nil _).symm
    · rw [takenBy_of_empty empty, System.acceptedBy, List.map_map, List.Nodup, List.pairwise_map]
      exact ((numbered_reachable reachable).increasing.filter _).imp fun less => Nat.ne_of_lt less
    · intro task taken extra isExtra
      rw [takenBy_of_empty empty] at taken
      rcases givesBack with affine | none
      · exact unblocked_of_exited reachable affine member exited (mem_acceptedBy.mp taken) isExtra
      · rw [none task taken] at isExtra
        cases isExtra

/-- A worker that an exception has ended has posted no `None` and never will. -/
theorem not_endsCleanly_of_dead (reachable : Reachable config loads system)
    (member : cpu ∈ config.cpus) {task : RunAndExtraWorkers}
    (dead : system.worker cpu = .dead task) : ¬ EndsCleanly system cpu := by
  intro clean
  have sentinel := (handshake_reachable reachable).sentinel cpu member
  rw [dead] at sentinel
  rcases clean.sentinel with posted | done
  · cases stage : system.controller.stage cpu with
    | unsent =>
      rw [stage] at sentinel
      exact sentinel.2.2 posted
    | current =>
      rw [stage] at sentinel
      rcases sentinel with ⟨_, _, absent⟩ | ⟨_, impossible, _⟩ | ⟨_, impossible, _⟩
      · exact absent posted
      · cases impossible
      · cases impossible
    | done =>
      rw [stage] at sentinel
      cases sentinel.2.1
  · rw [done] at sentinel
    cases sentinel.2.1

/-- In a run in which every outcome is one that `Execute` handles, a worker that has ended has
ended cleanly exactly when affinity is set or none of its tasks had extra workers. -/
theorem endsCleanly_iff_givesBack (reachable : ReturningReachable config loads system)
    (member : cpu ∈ config.cpus) (ended : (system.worker cpu).ended = true) :
    EndsCleanly system cpu ↔ config.cpuAffinity = true ∨
      ∀ task ∈ system.acceptedBy cpu, task.extraWorkers = [] := by
  refine endsCleanly_of_exited reachable.reachable member ?_
  have alive := alive_reachable reachable cpu
  cases state : system.worker cpu with
  | exited => rfl
  | dead task =>
    rw [state] at alive
    cases alive
  | _ =>
    rw [state] at ended
    cases ended

/-! ### A worker that ends cleanly and one that does not -/

/-- A run of two threads on worker `2` that fails, and the shutdown up to the end of that worker. -/
def stopsTwo : List (Action Nat) :=
  oneRun 11 ++ controllerSteps 9 ++ workerSteps 1 2 ++ controllerSteps 2 ++ workerSteps 2 2

theorem returns_stopsTwo : ∀ action ∈ stopsTwo, action.Returns loadsNothing := by
  intro action member
  simp only [stopsTwo, oneRun, List.cons_append, List.append_assoc, List.mem_cons,
    List.mem_append] at member
  rcases member with rfl | member | member | member | member | member | member | member | member |
    member
  · trivial
  · exact returns_controllerSteps _ action member
  · exact returns_workerSteps _ _ action member
  · exact returns_workerSteps _ _ action member
  · exact returns_workerSteps _ _ action member
  · exact returns_workerSteps _ _ action member
  · exact returns_controllerSteps _ action member
  · exact returns_workerSteps _ _ action member
  · exact returns_controllerSteps _ action member
  · exact returns_workerSteps _ _ action member

/-- Worker `2` ends cleanly after a run that failed. -/
theorem endsCleanly_stopsTwo : ∃ system, ReturningReachable (fourWorkers true) loadsNothing system ∧
    (system.worker 2).ended = true ∧ (system.posted 2).length = 1 ∧ EndsCleanly system 2 := by
  obtain ⟨system, reachable, observed⟩ := returning_of_observed returns_stopsTwo (show
    (runActions (fourWorkers true) loadsNothing stopsTwo System.start).any (fun system =>
      (system.worker 2).ended && (system.posted 2).length == 1) = true by decide +kernel)
  rw [Bool.and_eq_true, beq_iff_eq] at observed
  exact ⟨system, reachable, observed.1, observed.2,
    (endsCleanly_iff_givesBack reachable (by decide) observed.1).mpr (.inl rfl)⟩

/-- The process succeeds, but there is no output file. -/
def missingOutput : Outcome Nat := .exited 0 "" "" 1 none

/-- The same with a run on worker `2` that leaves no output. -/
def losesOutput : List (Action Nat) :=
  .controller (.pass [twoThreads] [1, 2, 3, 4]) :: controllerSteps 5 ++
    List.replicate 6 (.worker 2 missingOutput) ++ workerSteps 1 1 ++ workerSteps 3 1 ++
    workerSteps 4 1 ++ controllerSteps 8 ++ workerSteps 1 2 ++ controllerSteps 2

/-- The controller waits on the empty result queue of a worker that has ended. -/
def waitsForDead (system : System Nat) : Bool :=
  (match system.worker 2 with
    | .dead _ => true
    | _ => false) &&
  (match system.controller with
    | .collecting [] 2 _ => (system.resultQ 2).isEmpty
    | _ => false)

/-- A missing output file ends worker `2` without its `None`, and the shutdown waits for it. -/
theorem not_endsCleanly_losesOutput :
    ∃ system, Reachable (fourWorkers true) loadsNothing system ∧
      (system.worker 2).ended = true ∧ waitsForDead system = true ∧ ¬ EndsCleanly system 2 := by
  obtain ⟨system, reachable, observed⟩ := reachable_of_observed (show
    (runActions (fourWorkers true) loadsNothing losesOutput System.start).any waitsForDead = true
      by decide +kernel)
  have dead := observed
  rw [waitsForDead, Bool.and_eq_true] at dead
  obtain ⟨dead, _⟩ := dead
  split at dead
  · rename_i task state
    refine ⟨system, reachable, ?_, observed, not_endsCleanly_of_dead reachable (by decide) state⟩
    rw [state]
    rfl
  · cases dead

end Fleetbench.Parallel
