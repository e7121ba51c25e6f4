/-
This file follows the shutdown handshake. The controller sends each worker one
`None` and waits until it comes back through the result queue; behind it there
is nothing left to deliver. If every `Execute` returns and every run gives back
its extra workers, the shutdown always ends: a worker that waits for its lock
waits for a run that was accepted later than any task it has itself, so there
is no circle of waiting threads.
-/

import Fleetbench.Parallel.Delivery
import Fleetbench.Parallel.Leak

namespace Fleetbench.Parallel

open Library

variable {Number : Type} {config : Config} {loads : String → Option (Value Number)}
  {before after system : System Number} {cpu : Cpu}

/-! ### The handshake -/

/-- How far the controller is with stopping a worker. -/
inductive Stage where
  | unsent
  | current
  | done
  deriving DecidableEq

def ControllerState.stage (cpu : Cpu) : ControllerState Number → Stage
  | .stopping todo => if cpu ∈ todo then .unsent else .done
  | .collecting _ current todo =>
    if current = cpu then .current else if cpu ∈ todo then .unsent else .done
  | .joining _ => .done
  | .finished => .done
  | _ => .unsent

/-- A worker that has taken its `None`. -/
def WorkerState.ending : WorkerState Number → Bool
  | .stopping => true
  | .exited => true
  | _ => false

/-- Where the `None` of a worker is: nowhere before it is sent, then in the command queue, with
the worker, or last in the result queue, and in the end gone, with the worker. -/
def SentinelAt (command : Option (Option RunAndExtraWorkers)) (state : WorkerState Number)
    (queue : List (Option (Delivery Number))) : Stage → Prop
  | .unsent => command ≠ some none ∧ state.ending = false ∧ none ∉ queue
  | .current =>
    command = some none ∧ state.ending = false ∧ none ∉ queue ∨
    command = none ∧ state = .stopping ∧ none ∉ queue ∨
    command = none ∧ state = .exited ∧ ∃ results, none ∉ results ∧ queue = results ++ [none]
  | .done => command = none ∧ state = .exited ∧ queue = []

section

variable {command : Option (Option RunAndExtraWorkers)} {state next : WorkerState Number}
  {queue : List (Option (Delivery Number))} {stage : Stage}

/-- A step of a worker that has not taken its `None`; it may post results. -/
theorem SentinelAt.work (sentinel : SentinelAt command state queue stage)
    (working : state.ending = false) (stays : next.ending = false)
    {more : List (Option (Delivery Number))} (results : none ∉ more) :
    SentinelAt command next (queue ++ more) stage := by
  have absent : none ∉ queue → none ∉ queue ++ more := fun old member =>
    (List.mem_append.mp member).elim old results
  cases stage with
  | unsent => exact ⟨sentinel.1, stays, absent sentinel.2.2⟩
  | current =>
    rcases sentinel with ⟨sent, _, none⟩ | ⟨_, rfl, _⟩ | ⟨_, rfl, _⟩
    · exact .inl ⟨sent, stays, absent none⟩
    · cases working
    · cases working
  | done =>
    rw [sentinel.2.1] at working
    cases working

theorem SentinelAt.takeStop (sentinel : SentinelAt (some none) state queue stage) :
    SentinelAt (none : Option (Option RunAndExtraWorkers)) .stopping queue stage := by
  cases stage with
  | unsent => exact absurd rfl sentinel.1
  | current =>
    rcases sentinel with ⟨_, _, none⟩ | ⟨impossible, _⟩ | ⟨impossible, _⟩
    · exact .inr (.inl ⟨rfl, rfl, none⟩)
    · cases impossible
    · cases impossible
  | done => cases sentinel.1

theorem SentinelAt.takeTask {task : RunAndExtraWorkers}
    (sentinel : SentinelAt (some (some task)) state queue stage) (stays : next.ending = false) :
    SentinelAt (none : Option (Option RunAndExtraWorkers)) next queue stage := by
  cases stage with
  | unsent => exact ⟨nofun, stays, sentinel.2.2⟩
  | current => rcases sentinel with ⟨impossible, _⟩ | ⟨impossible, _⟩ | ⟨impossible, _⟩ <;>
      cases impossible
  | done => cases sentinel.1

theorem SentinelAt.stop (sentinel : SentinelAt command .stopping queue stage) :
    SentinelAt command .exited (queue ++ [none]) stage := by
  cases stage with
  | unsent => cases sentinel.2.1
  | current =>
    rcases sentinel with ⟨_, impossible, _⟩ | ⟨taken, _, none⟩ | ⟨_, impossible, _⟩
    · cases impossible
    · exact .inr (.inr ⟨taken, rfl, queue, none, rfl⟩)
    · cases impossible
  | done => cases sentinel.2.1

theorem SentinelAt.dequeue {item : Option (Delivery Number)}
    (sentinel : SentinelAt command state (item :: queue) .unsent) :
    SentinelAt command state queue .unsent :=
  ⟨sentinel.1, sentinel.2.1, fun inRest => sentinel.2.2 (List.mem_cons_of_mem _ inRest)⟩

/-- The `None` of a worker is the last item of its result queue. -/
theorem SentinelAt.collected (sentinel : SentinelAt command state (none :: queue) .current) :
    SentinelAt command state queue .done := by
  rcases sentinel with ⟨_, _, absent⟩ | ⟨_, _, absent⟩ | ⟨taken, ended, others, absent, split⟩
  · exact absurd List.mem_cons_self absent
  · exact absurd List.mem_cons_self absent
  · cases others with
    | nil =>
      cases split
      exact ⟨taken, ended, rfl⟩
    | cons first others =>
      cases split
      exact absurd List.mem_cons_self absent

theorem SentinelAt.collect {delivery : Delivery Number}
    (sentinel : SentinelAt command state (some delivery :: queue) .current) :
    SentinelAt command state queue .current := by
  rcases sentinel with ⟨sent, working, absent⟩ | ⟨taken, ends, absent⟩ |
    ⟨taken, ended, others, absent, split⟩
  · exact .inl ⟨sent, working, fun inRest => absent (List.mem_cons_of_mem _ inRest)⟩
  · exact .inr (.inl ⟨taken, ends, fun inRest => absent (List.mem_cons_of_mem _ inRest)⟩)
  · cases others with
    | nil => cases split
    | cons first others =>
      cases split
      exact .inr (.inr ⟨taken, ended, others,
        fun inOthers => absent (List.mem_cons_of_mem _ inOthers), rfl⟩)

end

/-- The invariant of the handshake. -/
structure Handshake (config : Config) (system : System Number) : Prop where
  stopping : ∀ todo, system.controller = .stopping todo → WorkerCpus config todo
  collecting : ∀ results cpu todo, system.controller = .collecting results cpu todo →
    WorkerCpus config (cpu :: todo)
  joining : ∀ todo, system.controller = .joining todo → WorkerCpus config todo
  sentinel : ∀ cpu ∈ config.cpus, SentinelAt (system.commandQ cpu) (system.worker cpu)
    (system.resultQ cpu) (system.controller.stage cpu)

theorem handshake_start : Handshake config (System.start : System Number) where
  stopping := fun _ impossible => by cases impossible
  collecting := fun _ _ _ impossible => by cases impossible
  joining := fun _ impossible => by cases impossible
  sentinel := fun _ _ => ⟨nofun, rfl, List.not_mem_nil⟩

theorem sentinel_workerMove {stage : Stage} {other : Cpu}
    (sentinel : SentinelAt (before.commandQ other) (before.worker other) (before.resultQ other)
      stage)
    (move : WorkerMove config loads cpu before after) :
    SentinelAt (after.commandQ other) (after.worker other) (after.resultQ other) stage := by
  by_cases here : other = cpu
  · subst here
    have works : ∀ (state : WorkerState Number) (more : List (Option (Delivery Number))),
        (before.worker other).ending = false → state.ending = false → none ∉ more →
        SentinelAt (before.commandQ other) (Function.update before.worker other state other)
          (before.resultQ other ++ more) stage := by
      intro state more working stays results
      rw [Function.update_self]
      exact sentinel.work working stays results
    have idles : ∀ state : WorkerState Number,
        (before.worker other).ending = false → state.ending = false →
        SentinelAt (before.commandQ other) (Function.update before.worker other state other)
          (before.resultQ other) stage := by
      intro state working stays
      have idle := works state [] working stays List.not_mem_nil
      rwa [List.append_nil] at idle
    have posts : ∀ (state : WorkerState Number) (delivery : Delivery Number),
        (before.worker other).ending = false → state.ending = false →
        SentinelAt (before.commandQ other) (Function.update before.worker other state other)
          (Function.update before.resultQ other (before.resultQ other ++ [some delivery]) other)
          stage := by
      intro state delivery working stays
      have posted := works state [some delivery] working stays (by simp)
      simpa only [Function.update_self] using posted
    cases move with
    | start state => exact idles _ (by rw [state]; rfl) rfl
    | takeStop state queued =>
      rw [queued] at sentinel
      simp only [Function.update_self]
      exact sentinel.takeStop
    | takeTask task state queued =>
      rw [queued] at sentinel
      simp only [Function.update_self]
      exact sentinel.takeTask rfl
    | acquire task state free => exact idles _ (by rw [state]; rfl) rfl
    | widen task state => exact idles _ (by rw [state]; rfl) rfl
    | executed task outcome result state returned => exact idles _ (by rw [state]; rfl) rfl
    | failed task outcome state raised => exact idles _ (by rw [state]; rfl) rfl
    | post task result state widens => exact posts _ _ (by rw [state]; rfl) rfl
    | postLast task result state stays => exact posts _ _ (by rw [state]; rfl) rfl
    | narrow task state => exact idles _ (by rw [state]; rfl) rfl
    | unblocked task state => exact idles _ (by rw [state]; rfl) rfl
    | unblock task extra todo state => exact idles _ (by rw [state]; rfl) rfl
    | unlock task extra todo state held => exact idles _ (by rw [state]; rfl) rfl
    | release state => exact idles _ (by rw [state]; rfl) rfl
    | stop state =>
      rw [state] at sentinel
      simp only [Function.update_self]
      exact sentinel.stop
    | die task state => exact idles _ (by rw [state]; rfl) rfl
  · cases move <;> simpa only [Function.update_of_ne here] using sentinel

/-- The controller's part in the handshake, for one worker. -/
theorem sentinel_controllerMove (handshake : Handshake config before)
    (move : ControllerMove config before after) {other : Cpu} (member : other ∈ config.cpus) :
    SentinelAt (after.commandQ other) (after.worker other) (after.resultQ other)
      (after.controller.stage other) := by
  have sentinel := handshake.sentinel other member
  have dequeues : ∀ {stage : Stage} {cpu : Cpu} {item : Option (Delivery Number)}
      {rest : List (Option (Delivery Number))}, before.resultQ cpu = item :: rest →
      SentinelAt (before.commandQ other) (before.worker other) (before.resultQ other) .unsent →
      stage = .unsent →
      SentinelAt (before.commandQ other) (before.worker other)
        (Function.update before.resultQ cpu rest other) stage := by
    rintro stage cpu item rest queued sentinel rfl
    by_cases here : other = cpu
    · subst here
      rw [queued] at sentinel
      rw [Function.update_self]
      exact sentinel.dequeue
    · rw [Function.update_of_ne here]
      exact sentinel
  cases move with
  | expire state =>
    rw [state] at sentinel
    rw [ControllerState.stage, if_pos member]
    exact sentinel
  | accept scan cpu state empty =>
    rw [state] at sentinel
    refine ⟨?_, sentinel.2⟩
    show Function.update before.commandQ cpu _ other ≠ _
    by_cases here : other = cpu
    · subst here
      rw [Function.update_self]
      nofun
    · rw [Function.update_of_ne here]
      exact sentinel.1
  | drainNone results cpu todo rest state queued =>
    rw [state] at sentinel
    exact dequeues queued sentinel rfl
  | drain results cpu todo delivery rest state queued =>
    rw [state] at sentinel
    exact dequeues queued sentinel rfl
  | stopped state =>
    rw [state] at sentinel
    exact sentinel
  | stop cpu todo state empty =>
    rw [state] at sentinel
    by_cases here : cpu = other
    · subst here
      rw [ControllerState.stage, if_pos List.mem_cons_self] at sentinel
      rw [ControllerState.stage, if_pos rfl]
      exact .inl ⟨Function.update_self _ _ _, sentinel.2⟩
    · rw [ControllerState.stage, if_neg here]
      show SentinelAt (Function.update before.commandQ cpu _ other) _ _ _
      rw [Function.update_of_ne (Ne.symm here)]
      simpa only [ControllerState.stage, List.mem_cons, Ne.symm here, false_or] using sentinel
  | collected results cpu todo rest state queued =>
    have once := (List.nodup_cons.mp (handshake.collecting _ _ _ state).1).1
    rw [state] at sentinel
    by_cases here : cpu = other
    · subst here
      rw [ControllerState.stage, if_pos rfl] at sentinel
      rw [ControllerState.stage, if_neg once]
      show SentinelAt _ _ (Function.update before.resultQ cpu rest cpu) _
      rw [Function.update_self]
      rw [queued] at sentinel
      exact sentinel.collected
    · rw [ControllerState.stage, if_neg here] at sentinel
      show SentinelAt _ _ (Function.update before.resultQ cpu rest other) _
      rw [Function.update_of_ne (Ne.symm here)]
      exact sentinel
  | collect results cpu todo delivery rest state queued =>
    rw [state] at sentinel
    by_cases here : cpu = other
    · subst here
      rw [ControllerState.stage, if_pos rfl] at sentinel
      rw [ControllerState.stage, if_pos rfl]
      show SentinelAt _ _ (Function.update before.resultQ cpu rest cpu) _
      rw [Function.update_self]
      rw [queued] at sentinel
      exact sentinel.collect
    · rw [ControllerState.stage, if_neg here] at sentinel ⊢
      show SentinelAt _ _ (Function.update before.resultQ cpu rest other) _
      rw [Function.update_of_ne (Ne.symm here)]
      exact sentinel
  | pass _ _ state _ => rwa [state] at sentinel
  | scheduled _ state => rwa [state] at sentinel
  | build _ _ _ state => rwa [state] at sentinel
  | exhaust _ state _ => rwa [state] at sentinel
  | block _ _ _ state _ _ _ => rwa [state] at sentinel
  | skip _ _ _ state _ _ _ => rwa [state] at sentinel
  | rejectInUse _ _ _ state _ _ _ => rwa [state] at sentinel
  | offer _ _ _ state _ _ _ => rwa [state] at sentinel
  | reserve _ _ state => rwa [state] at sentinel
  | rejectFull _ _ state _ => rwa [state] at sentinel
  | abandoned _ state => rwa [state] at sentinel
  | unblock _ _ _ state => rwa [state] at sentinel
  | unlock _ _ _ state _ => rwa [state] at sentinel
  | drained _ state => rwa [state] at sentinel
  | drainEmpty _ _ _ state _ => rwa [state] at sentinel
  | joined state => rwa [state] at sentinel
  | join _ _ state _ => rwa [state] at sentinel

theorem handshake_step (handshake : Handshake config before)
    (step : Step config loads before after) : Handshake config after := by
  obtain ⟨cpu, _, move⟩ | move := step.cases
  · obtain ⟨_, controllerEq⟩ := accepted_workerMove move
    refine ⟨?_, ?_, ?_, ?_⟩
    · rw [controllerEq]
      exact handshake.stopping
    · rw [controllerEq]
      exact handshake.collecting
    · rw [controllerEq]
      exact handshake.joining
    · rw [controllerEq]
      exact fun other member => sentinel_workerMove (handshake.sentinel other member) move
  · refine ⟨?_, ?_, ?_, fun other member => sentinel_controllerMove handshake move member⟩
    · intro todo state
      cases move with
      | expire =>
        cases state
        exact ⟨(List.nodup_cons.mp config.distinct).2, fun _ member => member⟩
      | collected results cpu todo rest old queued =>
        cases state
        exact (handshake.collecting _ _ _ old).sublist (List.sublist_cons_self _ _)
      | _ => cases state
    · intro results cpu todo state
      cases move with
      | stop cpu todo old empty =>
        cases state
        exact handshake.stopping _ old
      | collect results cpu todo delivery rest old queued =>
        cases state
        exact handshake.collecting _ _ _ old
      | _ => cases state
    · intro todo state
      cases move with
      | stopped =>
        cases state
        exact ⟨(List.nodup_cons.mp config.distinct).2, fun _ member => member⟩
      | join cpu todo old ended =>
        cases state
        exact (handshake.joining _ old).sublist (List.sublist_cons_self _ _)
      | _ => cases state

theorem handshake_reachable (reachable : Reachable config loads system) :
    Handshake config system :=
  reachable_invariant handshake_start (fun _ _ handshake step => handshake_step handshake step)
    reachable

/-! ### Who waits for whom -/

/-- A task that still needs the lock of the worker on `cpu`. -/
def NeedsLock (system : System Number) (cpu : Cpu) (task : RunAndExtraWorkers) : Prop :=
  system.commandQ cpu = some (some task) ∨ system.worker cpu = .acquiring task

/-- A worker is reserved only for runs that were built after every task it still has to start:
while a worker is reserved it accepts nothing. -/
structure InOrder (system : System Number) : Prop where
  idle : ∀ scan cpu, system.controller = .offering scan cpu →
    system.inUseAsExtraWorker cpu = false
  later : ∀ cpu serial, system.inUseAsExtraWorker cpu = true →
    system.lock cpu = some (.reservation serial) → ∀ task, NeedsLock system cpu task →
      task.run.serial < serial

theorem inOrder_start : InOrder (System.start : System Number) where
  idle := fun _ _ impossible => by cases impossible
  later := fun _ _ impossible => by cases impossible

theorem needsLock_workerMove (move : WorkerMove config loads cpu before after) {other : Cpu}
    {task : RunAndExtraWorkers} (needs : NeedsLock after other task) :
    NeedsLock before other task := by
  rcases needs with queued | acquiring
  · exact .inl (commandQ_workerMove move queued)
  · have elsewhere : ∀ state : WorkerState Number,
        Function.update before.worker cpu state other = .acquiring task →
        (state = .acquiring task → before.commandQ cpu = some (some task)) →
        NeedsLock before other task := by
      intro state updated here
      by_cases same : other = cpu
      · subst same
        rw [Function.update_self] at updated
        exact .inl (here updated)
      · rw [Function.update_of_ne same] at updated
        exact .inr updated
    cases move with
    | takeTask task' state queued =>
      refine elsewhere _ acquiring fun same => ?_
      cases same
      exact queued
    | start => exact elsewhere _ acquiring nofun
    | takeStop => exact elsewhere _ acquiring nofun
    | acquire => exact elsewhere _ acquiring nofun
    | widen => exact elsewhere _ acquiring nofun
    | executed => exact elsewhere _ acquiring nofun
    | failed => exact elsewhere _ acquiring nofun
    | post => exact elsewhere _ acquiring nofun
    | postLast => exact elsewhere _ acquiring nofun
    | narrow => exact elsewhere _ acquiring nofun
    | unblocked => exact elsewhere _ acquiring nofun
    | unblock => exact elsewhere _ acquiring nofun
    | unlock => exact elsewhere _ acquiring nofun
    | release => exact elsewhere _ acquiring nofun
    | stop => exact elsewhere _ acquiring nofun
    | die => exact elsewhere _ acquiring nofun

/-- A worker neither reserves a CPU nor raises a flag. -/
theorem reservation_workerMove (move : WorkerMove config loads cpu before after) {other : Cpu} :
    (∀ serial, after.lock other = some (.reservation serial) →
      before.lock other = some (.reservation serial)) ∧
    (after.inUseAsExtraWorker other = true → before.inUseAsExtraWorker other = true) := by
  have locks : ∀ (changed : Cpu) (holder : Option Holder), reservedFor holder = none →
      ∀ serial, Function.update before.lock changed holder other = some (.reservation serial) →
      before.lock other = some (.reservation serial) := by
    intro changed holder own serial updated
    by_cases same : other = changed
    · subst same
      rw [Function.update_self] at updated
      rw [updated] at own
      cases own
    · rwa [Function.update_of_ne same] at updated
  cases move with
  | acquire task state free => exact ⟨locks _ _ rfl, fun up => up⟩
  | unblock task extra todo state =>
    refine ⟨fun _ held => held, fun up => ?_⟩
    change Function.update before.inUseAsExtraWorker extra false other = true at up
    by_cases same : other = extra
    · subst same
      rw [Function.update_self] at up
      cases up
    · rwa [Function.update_of_ne same] at up
  | unlock task extra todo state held => exact ⟨locks _ _ rfl, fun up => up⟩
  | release state => exact ⟨locks _ _ rfl, fun up => up⟩
  | die task state => exact ⟨locks _ _ rfl, fun up => up⟩
  | _ => exact ⟨fun _ held => held, fun up => up⟩

theorem accepted_of_needsLock (scheduled : Scheduled config before) {task : RunAndExtraWorkers}
    (needs : NeedsLock before cpu task) : (cpu, task) ∈ before.accepted := by
  rcases needs with queued | acquiring
  · exact scheduled.queued cpu task queued
  · exact scheduled.taken cpu task (by rw [acquiring]; rfl)

theorem inOrder_controllerMove (owned : Owned before) (scheduled : Scheduled config before)
    (numbered : Numbered config before) (inOrder : InOrder before)
    (move : ControllerMove config before after) : InOrder after := by
  cases move with
  | offer scan cpu todo state first last idle =>
    refine ⟨fun scan' cpu' same => ?_, inOrder.later⟩
    cases same
    exact idle
  | block scan cpu todo state first more free =>
    refine ⟨nofun, fun other serial up held task needs => ?_⟩
    by_cases here : other = cpu
    · subst here
      obtain ⟨place, hold, found, flagged⟩ := (owned.balanced.flag other).mp up
      have locked := owned.lock_of_reserved found (Hold.mem_claims_of_flagged flagged)
      rw [free] at locked
      cases locked
    · refine inOrder.later other serial up ?_ task needs
      exact (Function.update_of_ne here _ _).symm.trans held
  | reserve scan cpu state =>
    refine ⟨nofun, fun other serial up held task needs => ?_⟩
    by_cases here : other = cpu
    · subst here
      have found : before.ledger.hold .controller =
          some ⟨scan.run.serial, scan.extraWorkers, some other⟩ := by
        show before.controller.hold = _
        rw [state]
        rfl
      have locked := owned.lock_of_reserved found (Hold.mem_claims_of_pending rfl)
      cases locked.symm.trans held
      have current := numbered.current scan.run (by rw [state]; rfl)
      exact current.2.2 (other, task) (accepted_of_needsLock scheduled needs)
    · refine inOrder.later other serial ?_ held task needs
      exact (Function.update_of_ne here _ _).symm.trans up
  | accept scan cpu state empty =>
    refine ⟨nofun, fun other serial up held task needs => ?_⟩
    have different : other ≠ cpu := by
      rintro rfl
      cases (inOrder.idle scan other state).symm.trans up
    refine inOrder.later other serial up held task ?_
    rcases needs with queued | acquiring
    · exact .inl ((Function.update_of_ne different _ _).symm.trans queued)
    · exact .inr acquiring
  | unblock scan extra todo state =>
    refine ⟨nofun, fun other serial up held task needs => ?_⟩
    have different : other ≠ extra := by
      rintro rfl
      cases (Function.update_self _ _ _).symm.trans up
    exact inOrder.later other serial ((Function.update_of_ne different _ _).symm.trans up) held
      task needs
  | unlock scan extra todo state _ =>
    refine ⟨nofun, fun other serial up held task needs => ?_⟩
    have different : other ≠ extra := by
      rintro rfl
      cases (Function.update_self _ _ _).symm.trans held
    exact inOrder.later other serial up ((Function.update_of_ne different _ _).symm.trans held)
      task needs
  | stop cpu todo state empty =>
    refine ⟨nofun, fun other serial up held task needs => ?_⟩
    refine inOrder.later other serial up held task ?_
    rcases needs with queued | acquiring
    · by_cases here : other = cpu
      · subst here
        cases (Function.update_self _ _ _).symm.trans queued
      · exact .inl ((Function.update_of_ne here _ _).symm.trans queued)
    · exact .inr acquiring
  | _ => exact ⟨nofun, inOrder.later⟩

theorem inOrder_step (owned : Owned before) (scheduled : Scheduled config before)
    (numbered : Numbered config before) (inOrder : InOrder before)
    (step : Step config loads before after) : InOrder after := by
  obtain ⟨cpu, _, move⟩ | move := step.cases
  · obtain ⟨_, controllerEq⟩ := accepted_workerMove move
    refine ⟨fun scan other state => ?_, fun other serial up held task needs => ?_⟩
    · rw [controllerEq] at state
      have idle := inOrder.idle scan other state
      by_contra up
      rw [Bool.not_eq_false] at up
      cases idle.symm.trans ((reservation_workerMove move).2 up)
    · exact inOrder.later other serial ((reservation_workerMove move).2 up)
        ((reservation_workerMove move).1 serial held) task (needsLock_workerMove move needs)
  · exact inOrder_controllerMove owned scheduled numbered inOrder move

theorem inOrder_reachable (reachable : Reachable config loads system) : InOrder system := by
  induction reachable with
  | refl => exact inOrder_start
  | tail earlier step inductionHypothesis =>
    exact inOrder_step (owned_reachable earlier) (scheduled_reachable earlier)
      (numbered_reachable earlier) inductionHypothesis step

end Fleetbench.Parallel
