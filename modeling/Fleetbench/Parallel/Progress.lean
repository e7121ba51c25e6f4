/-
This file proves that results are delivered exactly once. What is returned is
an initial stretch of what was accepted, in every reachable state. When every
`Execute` returns, each step of the shutdown uses up some of the work that is
left; when moreover every run gives back its extra workers, no state of the
shutdown is stuck, so the shutdown ends, and then everything that was accepted
has been returned.
-/

import Fleetbench.Parallel.Shutdown

namespace Fleetbench.Parallel

open Library

variable {Number : Type} {config : Config} {loads : String → Option (Value Number)}
  {before after system : System Number} {cpu : Cpu}

/-! ### Runs in which every `Execute` returns -/

/-- The environment answers with outcomes that `Execute` handles. -/
def Action.Returns (loads : String → Option (Value Number)) : Action Number → Prop
  | .worker _ outcome => outcome.Handled loads
  | .controller _ => True

def ReturningStep (config : Config) (loads : String → Option (Value Number))
    (before after : System Number) : Prop :=
  ∃ action : Action Number, action.Returns loads ∧ next config loads before action = some after

def ReturningReachable (config : Config) (loads : String → Option (Value Number)) :
    System Number → Prop :=
  Relation.ReflTransGen (ReturningStep config loads) System.start

theorem ReturningStep.step (step : ReturningStep config loads before after) :
    Step config loads before after :=
  let ⟨action, _, taken⟩ := step
  ⟨action, taken⟩

theorem ReturningReachable.reachable (reachable : ReturningReachable config loads system) :
    Reachable config loads system := by
  induction reachable with
  | refl => exact .refl
  | tail _ step inductionHypothesis => exact inductionHypothesis.tail step.step

/-- A worker thread that an exception has left. -/
def WorkerState.failing : WorkerState Number → Bool
  | .raising _ => true
  | .dead _ => true
  | _ => false

theorem failing_workerStep {outcome : Outcome Number} (handled : outcome.Handled loads)
    (alive : ∀ cpu, (before.worker cpu).failing = false)
    (step : workerStep config loads cpu outcome before = some after) (other : Cpu) :
    (after.worker other).failing = false := by
  have elsewhere : ∀ state : WorkerState Number, state.failing = false →
      (Function.update before.worker cpu state other).failing = false := by
    intro state here
    by_cases same : other = cpu
    · rw [same, Function.update_self]
      exact here
    · rw [Function.update_of_ne same]
      exact alive other
  have here := alive cpu
  cases workerStep_move step with
  | failed task outcome' state raised =>
    rw [workerStep, state] at step
    have returns := (execute_isSome_iff loads task.run outcome).mpr handled
    obtain ⟨result, executed⟩ := Option.isSome_iff_exists.mp returns
    simp only [executed, Option.some.injEq] at step
    have posting := congrFun (congrArg System.worker step) cpu
    simp only [Function.update_self] at posting
    cases posting
  | die task state =>
    rw [state] at here
    cases here
  | start => exact elsewhere _ rfl
  | takeStop => exact elsewhere _ rfl
  | takeTask => exact elsewhere _ rfl
  | acquire => exact elsewhere _ rfl
  | widen => exact elsewhere _ rfl
  | executed => exact elsewhere _ rfl
  | post => exact elsewhere _ rfl
  | postLast => exact elsewhere _ rfl
  | narrow => exact elsewhere _ rfl
  | unblocked => exact elsewhere _ rfl
  | unblock => exact elsewhere _ rfl
  | unlock => exact elsewhere _ rfl
  | release => exact elsewhere _ rfl
  | stop => exact elsewhere _ rfl

theorem alive_step (alive : ∀ cpu, (before.worker cpu).failing = false)
    (step : ReturningStep config loads before after) (cpu : Cpu) :
    (after.worker cpu).failing = false := by
  obtain ⟨action, returns, taken⟩ := step
  cases action with
  | worker current outcome =>
    rw [next] at taken
    split at taken
    · exact failing_workerStep returns alive taken cpu
    · cases taken
  | controller choice =>
    rw [(controllerMove_frame (controllerStep_move taken)).1]
    exact alive cpu

/-- No worker thread ends early. -/
theorem alive_reachable (reachable : ReturningReachable config loads system) (cpu : Cpu) :
    (system.worker cpu).failing = false := by
  induction reachable generalizing cpu with
  | refl => rfl
  | tail _ step inductionHypothesis => exact alive_step inductionHypothesis step cpu

/-! ### The work that is left -/

def WorkerState.weight : WorkerState Number → Nat
  | .starting => 1
  | .waiting => 0
  | .acquiring task => 2 * task.extraWorkers.length + 9
  | .widening task => 2 * task.extraWorkers.length + 8
  | .executing task => 2 * task.extraWorkers.length + 7
  | .posting task _ => 2 * task.extraWorkers.length + 6
  | .narrowing task => 2 * task.extraWorkers.length + 4
  | .unblocking _ todo => 2 * todo.length + 3
  | .unlocking _ _ todo => 2 * todo.length + 4
  | .releasing => 2
  | .stopping => 2
  | .exited => 0
  | .raising _ => 1
  | .dead _ => 0

def commandWeight : Option (Option RunAndExtraWorkers) → Nat
  | none => 0
  | some none => 3
  | some (some task) => 2 * task.extraWorkers.length + 10

/-- The steps that the shutdown itself still takes. -/
def ControllerState.weight (config : Config) : ControllerState Number → Nat
  | .stopping todo => 5 * todo.length + (config.cpus.length + 2)
  | .collecting _ _ todo => 5 * todo.length + (config.cpus.length + 3)
  | .joining todo => todo.length + 1
  | _ => 0

/-- The share of one worker in the work that is left. -/
def System.share (system : System Number) (cpu : Cpu) : Nat :=
  (system.worker cpu).weight + commandWeight (system.commandQ cpu) + (system.resultQ cpu).length

def System.work (config : Config) (system : System Number) : Nat :=
  (config.cpus.map system.share).sum + system.controller.weight config

def ControllerState.shuttingDown : ControllerState Number → Bool
  | .stopping _ => true
  | .collecting _ _ _ => true
  | .joining _ => true
  | .finished => true
  | _ => false

theorem share_update {new : Nat}
    (here : after.share cpu = new) (elsewhere : ∀ other, other ≠ cpu → after.share other =
      before.share other) : after.share = Function.update before.share cpu new := by
  funext other
  by_cases same : other = cpu
  · rw [same, Function.update_self, here]
  · rw [Function.update_of_ne same, elsewhere other same]

/-- A step that changes the share of one worker only. -/
theorem work_of_share (member : cpu ∈ config.cpus)
    (elsewhere : ∀ other, other ≠ cpu → after.share other = before.share other)
    (less : after.share cpu + after.controller.weight config <
      before.share cpu + before.controller.weight config) :
    after.work config < before.work config := by
  have distinct := (List.nodup_cons.mp config.distinct).2
  have sums := sum_map_update distinct member before.share (after.share cpu)
  rw [← share_update rfl elsewhere] at sums
  rw [System.work, System.work]
  omega

/-- A worker uses up its own share. -/
theorem share_workerMove (alive : ∀ cpu, (before.worker cpu).failing = false)
    (returned : ∀ cpu, (after.worker cpu).failing = false)
    (move : WorkerMove config loads cpu before after) :
    after.share cpu < before.share cpu ∧
      ∀ other, other ≠ cpu → after.share other = before.share other := by
  refine ⟨?_, fun other different => ?_⟩
  · rw [System.share, System.share]
    cases move with
    | failed task outcome state raised =>
      have impossible := returned cpu
      simp only [Function.update_self] at impossible
      cases impossible
    | die task state =>
      have impossible := alive cpu
      rw [state] at impossible
      cases impossible
    | start state => simp [state, WorkerState.weight]
    | takeStop state queued => simp [state, queued, WorkerState.weight, commandWeight]
    | takeTask task state queued => simp [state, queued, WorkerState.weight, commandWeight]
    | acquire task state free => simp [state, WorkerState.weight]
    | widen task state => simp [state, WorkerState.weight]
    | executed task outcome result state returned => simp [state, WorkerState.weight]
    | post task result state widens =>
      simp [state, WorkerState.weight]
      omega
    | postLast task result state stays =>
      simp [state, WorkerState.weight]
      omega
    | narrow task state => simp [state, WorkerState.weight]
    | unblocked task state => simp [state, WorkerState.weight]
    | unblock task extra todo state =>
      simp [state, WorkerState.weight]
      omega
    | unlock task extra todo state held => simp [state, WorkerState.weight]
    | release state => simp [state, WorkerState.weight]
    | stop state =>
      simp [state, WorkerState.weight]
      omega
  · cases move <;> simp [System.share, Function.update_of_ne different]

theorem work_workerMove (member : cpu ∈ config.cpus)
    (alive : ∀ cpu, (before.worker cpu).failing = false)
    (returned : ∀ cpu, (after.worker cpu).failing = false)
    (move : WorkerMove config loads cpu before after) : after.work config < before.work config := by
  obtain ⟨less, elsewhere⟩ := share_workerMove alive returned move
  refine work_of_share member elsewhere ?_
  rw [(accepted_workerMove move).2]
  exact Nat.add_lt_add_right less _

/-- The controller uses up work in each step of the shutdown, and stays in it. -/
theorem work_controllerMove (handshake : Handshake config before)
    (down : before.controller.shuttingDown = true)
    (move : ControllerMove config before after) :
    after.work config < before.work config ∧ after.controller.shuttingDown = true ∧
      after.accepted = before.accepted := by
  have dequeues : ∀ {item : Option (Delivery Number)} {cpu : Cpu}
      {rest : List (Option (Delivery Number))}, cpu ∈ config.cpus →
      before.resultQ cpu = item :: rest → after.worker = before.worker →
      after.commandQ = before.commandQ →
      after.resultQ = Function.update before.resultQ cpu rest →
      after.controller.weight config ≤ before.controller.weight config →
      after.work config < before.work config := by
    intro item cpu rest member queued workerEq commandEq resultEq weight
    refine work_of_share member (fun other different => ?_) ?_
    · rw [System.share, System.share, workerEq, commandEq, resultEq,
        Function.update_of_ne different]
    · rw [System.share, System.share, workerEq, commandEq, resultEq, Function.update_self, queued,
        List.length_cons]
      omega
  cases move with
  | stopped state =>
    refine ⟨?_, rfl, rfl⟩
    show (config.cpus.map before.share).sum + (config.cpus.length + 1) <
      (config.cpus.map before.share).sum + before.controller.weight config
    rw [state, ControllerState.weight, List.length_nil]
    omega
  | stop cpu todo state empty =>
    refine ⟨?_, rfl, rfl⟩
    have member := (handshake.stopping _ state).2 cpu List.mem_cons_self
    refine work_of_share member (fun other different => ?_) ?_
    · simp [System.share, Function.update_of_ne different]
    · simp only [System.share, Function.update_self, state, empty, commandWeight,
        ControllerState.weight, List.length_cons]
      omega
  | collected results cpu todo rest state queued =>
    have member := (handshake.collecting _ _ _ state).2 cpu List.mem_cons_self
    refine ⟨dequeues member queued rfl rfl rfl ?_, rfl, rfl⟩
    rw [state, ControllerState.weight, ControllerState.weight]
    omega
  | collect results cpu todo delivery rest state queued =>
    have member := (handshake.collecting _ _ _ state).2 cpu List.mem_cons_self
    refine ⟨dequeues member queued rfl rfl rfl ?_, rfl, rfl⟩
    rw [state, ControllerState.weight, ControllerState.weight]
  | joined state =>
    refine ⟨?_, rfl, rfl⟩
    show (config.cpus.map before.share).sum + 0 <
      (config.cpus.map before.share).sum + before.controller.weight config
    rw [state, ControllerState.weight]
    omega
  | join cpu todo state ended =>
    refine ⟨?_, rfl, rfl⟩
    show (config.cpus.map before.share).sum + (todo.length + 1) <
      (config.cpus.map before.share).sum + before.controller.weight config
    rw [state, ControllerState.weight, List.length_cons]
    omega
  | expire state => rw [state] at down; cases down
  | pass _ _ state _ => rw [state] at down; cases down
  | scheduled _ state => rw [state] at down; cases down
  | build _ _ _ state => rw [state] at down; cases down
  | exhaust _ state _ => rw [state] at down; cases down
  | block _ _ _ state _ _ _ => rw [state] at down; cases down
  | skip _ _ _ state _ _ _ => rw [state] at down; cases down
  | rejectInUse _ _ _ state _ _ _ => rw [state] at down; cases down
  | offer _ _ _ state _ _ _ => rw [state] at down; cases down
  | reserve _ _ state => rw [state] at down; cases down
  | rejectFull _ _ state _ => rw [state] at down; cases down
  | accept _ _ state _ => rw [state] at down; cases down
  | abandoned _ state => rw [state] at down; cases down
  | unblock _ _ _ state => rw [state] at down; cases down
  | unlock _ _ _ state _ => rw [state] at down; cases down
  | drained _ state => rw [state] at down; cases down
  | drainEmpty _ _ _ state _ => rw [state] at down; cases down
  | drainNone _ _ _ _ state _ => rw [state] at down; cases down
  | drain _ _ _ _ _ state _ => rw [state] at down; cases down

/-! ### No state of the shutdown is stuck -/

/-- A worker that is neither waiting, nor in want of a lock, nor at its end has a next step,
whatever the outcome of its run. -/
theorem workerStep_of_busy (owned : Owned system) (outcome : Outcome Number)
    (waits : system.worker cpu ≠ .waiting) (acquires : ∀ task, system.worker cpu ≠ .acquiring task)
    (ended : system.worker cpu ≠ .exited) (dead : ∀ task, system.worker cpu ≠ .dead task) :
    ∃ after, workerStep config loads cpu outcome system = some after := by
  unfold workerStep
  split
  case h_1 => exact ⟨_, rfl⟩
  case h_2 state => exact absurd state waits
  case h_3 task state => exact absurd state (acquires task)
  case h_4 => exact ⟨_, rfl⟩
  case h_5 => split <;> exact ⟨_, rfl⟩
  case h_6 => simp only; split <;> exact ⟨_, rfl⟩
  case h_7 => exact ⟨_, rfl⟩
  case h_8 => exact ⟨_, rfl⟩
  case h_9 => exact ⟨_, rfl⟩
  case h_10 task extra todo state =>
    have found : system.ledger.hold (.worker cpu) = some ⟨task.run.serial, todo, some extra⟩ := by
      show (system.worker cpu).hold = _
      rw [state]
      rfl
    have locked := owned.lock_of_reserved found (Hold.mem_claims_of_pending rfl)
    have held : system.lock extra ≠ none := by
      rw [locked]
      exact Option.some_ne_none _
    exact ⟨_, if_pos held⟩
  case h_11 => exact ⟨_, rfl⟩
  case h_12 => exact ⟨_, rfl⟩
  case h_13 => exact ⟨_, rfl⟩
  case h_14 state => exact absurd state ended
  case h_15 task state => exact absurd state (dead task)

section

variable [Inhabited Number]

/-- A process that fails is always a handled outcome. -/
def failure : Outcome Number := .exited 1 "" "" default none

theorem handled_failure : (failure : Outcome Number).Handled loads :=
  .inl (by decide)

/-- A worker without a next step waits for a command or for its lock, or has ended. -/
theorem worker_of_stuck (owned : Owned system) (alive : ∀ cpu, (system.worker cpu).failing = false)
    (stuck : ∀ after, ¬ ReturningStep config loads system after) (member : cpu ∈ config.cpus) :
    system.worker cpu = .waiting ∧ system.commandQ cpu = none ∨
      (∃ task, system.worker cpu = .acquiring task ∧ system.lock cpu ≠ none) ∨
      system.worker cpu = .exited := by
  have blocked : ∀ after, workerStep config loads cpu failure system ≠ some after := by
    intro after taken
    exact stuck after ⟨.worker cpu failure, handled_failure, (if_pos member).trans taken⟩
  by_cases waits : system.worker cpu = .waiting
  · refine .inl ⟨waits, ?_⟩
    rw [workerStep, waits] at blocked
    cases queued : system.commandQ cpu with
    | none => rfl
    | some command =>
      rw [queued] at blocked
      cases command with
      | none => exact absurd rfl (blocked _)
      | some task => exact absurd rfl (blocked _)
  · by_cases acquires : ∃ task, system.worker cpu = .acquiring task
    · obtain ⟨task, acquires⟩ := acquires
      refine .inr (.inl ⟨task, acquires, fun free => ?_⟩)
      rw [workerStep, acquires] at blocked
      exact blocked _ (if_pos free)
    · refine .inr (.inr ?_)
      by_contra running
      obtain ⟨after, taken⟩ := workerStep_of_busy owned failure waits
        (fun task same => acquires ⟨task, same⟩) running fun task dead => by
          have impossible := alive cpu
          rw [dead] at impossible
          cases impossible
      exact blocked after taken

omit [Inhabited Number] in
theorem hold_of_shuttingDown {state : ControllerState Number} (down : state.shuttingDown = true) :
    state.hold = none := by
  cases state <;> first | rfl | cases down

omit [Inhabited Number] in
/-- Once sent, a `None` stays ahead of every task: a worker that has ended has none queued. -/
theorem commandQ_of_exited (handshake : Handshake config system) (member : cpu ∈ config.cpus)
    (ended : system.worker cpu = .exited) : system.commandQ cpu = none := by
  have sentinel := handshake.sentinel cpu member
  rw [ended] at sentinel
  generalize system.controller.stage cpu = stage at sentinel
  cases stage with
  | unsent => cases sentinel.2.1
  | current =>
    rcases sentinel with ⟨_, impossible, _⟩ | ⟨_, impossible, _⟩ | ⟨taken, _⟩
    · cases impossible
    · cases impossible
    · exact taken
  | done => exact sentinel.1

/-- In a stuck shutdown, whoever needs a lock waits for someone who came later. -/
theorem needsLock_later (reachable : ReturningReachable config loads system)
    (givesBack : GivesBack config system) (down : system.controller.shuttingDown = true)
    (stuck : ∀ after, ¬ ReturningStep config loads system after) (member : cpu ∈ config.cpus)
    {task : RunAndExtraWorkers} (needs : NeedsLock system cpu task) :
    ∃ other ∈ config.cpus, ∃ later, NeedsLock system other later ∧
      task.run.serial < later.run.serial := by
  have owned := owned_reachable reachable.reachable
  have scheduled := scheduled_reachable reachable.reachable
  have tracked := tracked_reachable reachable.reachable
  have inOrder := inOrder_reachable reachable.reachable
  have handshake := handshake_reachable reachable.reachable
  have alive := alive_reachable reachable
  obtain ⟨waiting, acquires, held⟩ : ∃ waiting, system.worker cpu = .acquiring waiting ∧
      system.lock cpu ≠ none := by
    rcases worker_of_stuck owned alive stuck member with ⟨waits, empty⟩ | acquires | ended
    · rcases needs with queued | acquiring
      · cases empty.symm.trans queued
      · cases waits.symm.trans acquiring
    · exact acquires
    · rcases needs with queued | acquiring
      · cases (commandQ_of_exited handshake member ended).symm.trans queued
      · cases ended.symm.trans acquiring
  obtain ⟨serial, locked⟩ : ∃ serial, system.lock cpu = some (.reservation serial) := by
    have guarded := owned.guarded cpu
    rw [acquires] at guarded
    obtain ⟨holder, isHolder⟩ := Option.ne_none_iff_exists'.mp held
    rw [isHolder] at guarded ⊢
    cases holder with
    | worker owner => cases guarded
    | reservation serial => exact ⟨serial, rfl⟩
  have reserved : system.ledger.reserved cpu = some serial := by
    show reservedFor (system.lock cpu) = _
    rw [locked]
    rfl
  obtain ⟨place, hold, found, rfl, claimed⟩ := (owned.balanced.reserved cpu serial).mp reserved
  have later : ∀ main other, NeedsLock system main other → hold = other.hold →
      (main, other) ∈ system.accepted → ∃ main ∈ config.cpus, ∃ other, NeedsLock system main other ∧
        task.run.serial < other.run.serial := by
    rintro main other needs' rfl accepted
    have isExtra : cpu ∈ other.extraWorkers := by
      simpa [RunAndExtraWorkers.hold, Hold.claims] using claimed
    have up := (owned.balanced.flag cpu).mpr ⟨place, _, found, isExtra⟩
    exact ⟨main, (scheduled.accepted _ accepted).workers.2 _ List.mem_cons_self, other, needs',
      inOrder.later cpu _ up locked task needs⟩
  cases place with
  | controller =>
    rw [show system.ledger.hold .controller = none from hold_of_shuttingDown down] at found
    cases found
  | queue main =>
    change queueHold (system.commandQ main) = some hold at found
    obtain ⟨other, queued, rfl⟩ := queueHold_eq_some found
    exact later main other (.inl queued) rfl (scheduled.queued main other queued)
  | worker main =>
    change (system.worker main).hold = some hold at found
    obtain ⟨other, taken⟩ := WorkerState.task?_of_hold found
    have accepted := scheduled.taken main other taken
    have known := (scheduled.accepted _ accepted).workers.2 main List.mem_cons_self
    rcases worker_of_stuck owned alive stuck known with ⟨waits, _⟩ | ⟨other', acquires', _⟩ | ended
    · rw [waits] at taken
      cases taken
    · rw [acquires'] at taken found
      cases taken
      cases found
      exact later main _ (.inr acquires') rfl accepted
    · rw [ended] at taken
      cases taken
  | leaked index =>
    obtain ⟨other, atIndex, rfl⟩ := Option.map_eq_some_iff.mp found
    obtain ⟨⟨main, accepted⟩, alone⟩ := tracked.leaked other (List.mem_of_getElem? atIndex)
    have noExtras : other.extraWorkers = [] := by
      rcases givesBack with affine | none
      · exact alone affine
      · exact none _ accepted
    simp [RunAndExtraWorkers.hold, Hold.claims, noExtras] at claimed

/-- So nobody needs a lock: runs are numbered below the number of runs built. -/
theorem not_needsLock_of_stuck (reachable : ReturningReachable config loads system)
    (givesBack : GivesBack config system) (down : system.controller.shuttingDown = true)
    (stuck : ∀ after, ¬ ReturningStep config loads system after) (member : cpu ∈ config.cpus)
    (task : RunAndExtraWorkers) : ¬ NeedsLock system cpu task := by
  intro needs
  generalize rank : system.created - task.run.serial = distance
  induction distance using Nat.strongRecOn generalizing cpu task with
  | ind distance inductionHypothesis =>
    obtain ⟨other, known, later, needs', less⟩ :=
      needsLock_later reachable givesBack down stuck member needs
    have accepted := accepted_of_needsLock (scheduled_reachable reachable.reachable) needs'
    have built := (numbered_reachable reachable.reachable).built _ accepted
    exact inductionHypothesis (system.created - later.run.serial) (by simp only at built; omega)
      known later needs' rfl

/-- A shutdown that is stuck is over. -/
theorem finished_of_stuck (reachable : ReturningReachable config loads system)
    (givesBack : GivesBack config system) (down : system.controller.shuttingDown = true)
    (stuck : ∀ after, ¬ ReturningStep config loads system after) :
    system.controller = .finished := by
  have owned := owned_reachable reachable.reachable
  have handshake := handshake_reachable reachable.reachable
  have alive := alive_reachable reachable
  have blocked : ∀ after, controllerStep config .expire system ≠ some after := fun after taken =>
    stuck after ⟨.controller .expire, trivial, taken⟩
  have idle : ∀ cpu ∈ config.cpus, system.worker cpu = .waiting ∧ system.commandQ cpu = none ∨
      system.worker cpu = .exited := by
    intro cpu member
    rcases worker_of_stuck owned alive stuck member with waits | ⟨task, acquires, _⟩ | ended
    · exact .inl waits
    · exact absurd (.inr acquires)
        (not_needsLock_of_stuck reachable givesBack down stuck member task)
    · exact .inr ended
  unfold controllerStep at blocked
  cases state : system.controller with
  | finished => rfl
  | stopping todo =>
    rw [state] at blocked
    cases todo with
    | nil => exact absurd rfl (blocked _)
    | cons cpu todo =>
      have member := (handshake.stopping _ state).2 cpu List.mem_cons_self
      have empty : system.commandQ cpu = none := by
        rcases idle cpu member with ⟨_, empty⟩ | ended
        · exact empty
        · exact commandQ_of_exited handshake member ended
      exact absurd (if_pos empty) (blocked _)
  | collecting results cpu todo =>
    rw [state] at blocked
    have member := (handshake.collecting _ _ _ state).2 cpu List.mem_cons_self
    have sentinel := handshake.sentinel cpu member
    rw [state, ControllerState.stage, if_pos rfl] at sentinel
    have queued : system.resultQ cpu ≠ [] := by
      rcases idle cpu member with ⟨waits, empty⟩ | ended
      · rw [waits, empty] at sentinel
        rcases sentinel with ⟨impossible, _⟩ | ⟨_, impossible, _⟩ | ⟨_, impossible, _⟩ <;>
          cases impossible
      · rw [ended] at sentinel
        rcases sentinel with ⟨_, impossible, _⟩ | ⟨_, impossible, _⟩ | ⟨_, _, others, _, split⟩
        · cases impossible
        · cases impossible
        · rw [split]
          exact List.append_ne_nil_of_right_ne_nil _ (List.cons_ne_nil _ _)
    cases queue : system.resultQ cpu with
    | nil => exact absurd queue queued
    | cons item rest =>
      simp only [queue] at blocked
      cases item with
      | none => exact absurd rfl (blocked _)
      | some delivery => exact absurd rfl (blocked _)
  | joining todo =>
    rw [state] at blocked
    cases todo with
    | nil => exact absurd rfl (blocked _)
    | cons cpu todo =>
      have member := (handshake.joining _ state).2 cpu List.mem_cons_self
      have sentinel := handshake.sentinel cpu member
      rw [state] at sentinel
      simp only [sentinel.2.1] at blocked
      exact absurd rfl (blocked _)
  | _ =>
    rw [state] at down
    cases down

end

/-! ### Exactly once -/

/-- The repetition is over, and every worker has returned the results of the runs it accepted, in
the order in which it accepted them. -/
def Done (config : Config) (system : System Number) : Prop :=
  system.controller = .finished ∧
    ∀ cpu ∈ config.cpus, (system.returned cpu).map (·.task) = system.acceptedBy cpu

/-- Exactly-once delivery, seen from one state. -/
structure ExactlyOnce (config : Config) (loads : String → Option (Value Number))
    (system : System Number) : Prop where
  inOrder : ∀ cpu, (system.returned cpu).map (·.task) <+: system.acceptedBy cpu
  genuine : ∀ cpu, ∀ delivery ∈ system.returned cpu,
    ∃ outcome, delivery.task.run.execute loads outcome = some delivery.result
  once : (system.accepted.map (·.2.run.serial)).Nodup
  rejected : ∀ entry ∈ system.rejected, ∀ delivery ∈ system.posted entry.1,
    delivery.task.run.serial ≠ entry.2.serial
  paths : (system.accepted.map (·.2.run.outFile)).Nodup
  arrives : system.controller.shuttingDown = true →
    Inevitable (ReturningStep config loads) (Done config) system

theorem done_of_finished (reachable : Reachable config loads system)
    (finished : system.controller = .finished) : Done config system := by
  refine ⟨finished, fun cpu member => ?_⟩
  have delivered := delivered_reachable reachable
  have sentinel := (handshake_reachable reachable).sentinel cpu member
  rw [finished] at sentinel
  obtain ⟨empty, ended, nothing⟩ := sentinel
  have results := delivered.results cpu
  rw [finished, nothing] at results
  have tasks := delivered.tasks cpu
  rw [ended, empty, results] at tasks
  rw [tasks]
  simp [WorkerState.inFlight, queuedTasks, ControllerState.inHand]

/-- The shutdown ends, and then every accepted run has been returned. -/
theorem inevitable_done [Inhabited Number] (reachable : ReturningReachable config loads system)
    (givesBack : GivesBack config system) (down : system.controller.shuttingDown = true) :
    Inevitable (ReturningStep config loads) (Done config) system := by
  let invariant : System Number → Prop := fun system =>
    ReturningReachable config loads system ∧ GivesBack config system ∧
      system.controller.shuttingDown = true
  have moves : ∀ before after, invariant before → ReturningStep config loads before after →
      after.work config < before.work config ∧ invariant after := by
    rintro before after ⟨reachable, givesBack, down⟩ step
    have alive := alive_reachable reachable
    have reachable' : ReturningReachable config loads after := reachable.tail step
    obtain ⟨cpu, member, move⟩ | move := step.step.cases
    · obtain ⟨acceptedEq, controllerEq⟩ := accepted_workerMove move
      refine ⟨work_workerMove member alive (alive_reachable reachable') move, reachable', ?_, ?_⟩
      · rw [GivesBack, acceptedEq]
        exact givesBack
      · rw [controllerEq]
        exact down
    · obtain ⟨less, down', acceptedEq⟩ :=
        work_controllerMove (handshake_reachable reachable.reachable) down move
      refine ⟨less, reachable', ?_, down'⟩
      rw [GivesBack, acceptedEq]
      exact givesBack
  refine inevitable_of_measure (System.work config)
    (fun before after holds step => (moves before after holds step).2)
    (fun before after holds step => (moves before after holds step).1) ?_
    (show invariant system from ⟨reachable, givesBack, down⟩)
  rintro state ⟨reachable, givesBack, down⟩ unfinished
  by_contra stuck
  have finished := finished_of_stuck reachable givesBack down fun after step =>
    stuck ⟨after, step⟩
  exact unfinished (done_of_finished reachable.reachable finished)

/-- In every reachable state in which no `Execute` failed to return, results are delivered exactly
once, provided that affinity is set or no accepted run has extra workers. -/
theorem exactlyOnce_of_givesBack [Inhabited Number]
    (reachable : ReturningReachable config loads system) (givesBack : GivesBack config system) :
    ExactlyOnce config loads system := by
  have delivered := delivered_reachable reachable.reachable
  have numbered := numbered_reachable reachable.reachable
  have returned : ∀ cpu, system.returned cpu <+: system.posted cpu := by
    intro cpu
    rw [delivered.results cpu]
    exact List.prefix_append _ _
  have posted : ∀ cpu, (system.posted cpu).map (·.task) <+: system.acceptedBy cpu := by
    intro cpu
    rw [delivered.tasks cpu]
    exact List.prefix_append _ _
  refine ⟨fun cpu => ((returned cpu).map _).trans (posted cpu), ?_, ?_, ?_, ?_,
    fun down => inevitable_done reachable givesBack down⟩
  · intro cpu delivery member
    exact delivered.genuine cpu delivery ((returned cpu).subset member)
  · rw [List.Nodup, List.pairwise_map]
    exact numbered.increasing.imp fun less => Nat.ne_of_lt less
  · intro entry isRejected delivery isPosted same
    have isAccepted := (posted entry.1).subset (List.mem_map_of_mem isPosted)
    obtain ⟨accepted, member, taskEq⟩ := List.mem_map.mp isAccepted
    rw [List.mem_filter, decide_eq_true_iff] at member
    refine numbered.apart accepted member.1 entry isRejected ?_ member.2
    rw [taskEq]
    exact same
  · rw [numbered.paths]
    exact List.Nodup.map (outFilePath_injective config.tempRoot) List.nodup_range

/-! ### A shutdown that ends and one that does not -/

theorem returning_runActions {actions : List (Action Number)}
    (returns : ∀ action ∈ actions, action.Returns loads) {final : System Number}
    (reachable : ReturningReachable config loads system)
    (run : runActions config loads actions system = some final) :
    ReturningReachable config loads final := by
  induction actions generalizing system with
  | nil =>
    cases run
    exact reachable
  | cons action rest inductionHypothesis =>
    obtain ⟨middle, step, run⟩ := Option.bind_eq_some_iff.mp run
    exact inductionHypothesis (fun other member => returns other (List.mem_cons_of_mem _ member))
      (reachable.tail ⟨action, returns action List.mem_cons_self, step⟩) run

theorem returning_of_observed {actions : List (Action Number)}
    (returns : ∀ action ∈ actions, action.Returns loads) {observe : System Number → Bool}
    (observed : (runActions config loads actions System.start).any observe = true) :
    ∃ system, ReturningReachable config loads system ∧ observe system = true := by
  obtain ⟨system, run, seen⟩ := (Option.any_eq_true _ _).mp observed
  exact ⟨system, returning_runActions returns .refl run, seen⟩

theorem returns_workerSteps (cpu : Cpu) (count : Nat) :
    ∀ action ∈ workerSteps cpu count, action.Returns loadsNothing := by
  intro action member
  rw [List.eq_of_mem_replicate member]
  exact .inl (by decide)

theorem returns_controllerSteps (count : Nat) :
    ∀ action ∈ controllerSteps count, action.Returns loadsNothing := by
  intro action member
  rw [List.eq_of_mem_replicate member]
  trivial

def oneThread : Benchmark := ⟨"bench (BM_One)", "BM_One"⟩

/-- A run is queued on worker `1`, which is then reserved for a run on worker `2`. The second run
ends, worker `1` takes its own, and the controller starts the shutdown. -/
def queuedThenReserved : List (Action Nat) :=
  .controller (.pass [oneThread] [1, 2, 3, 4]) :: controllerSteps 9 ++
    .controller (.pass [twoThreads] [1, 2, 3, 4]) :: controllerSteps 11 ++
    workerSteps 1 2 ++ workerSteps 2 7 ++ workerSteps 3 1 ++ workerSteps 4 1 ++ controllerSteps 2

theorem returns_queuedThenReserved :
    ∀ action ∈ queuedThenReserved, action.Returns loadsNothing := by
  intro action member
  simp only [queuedThenReserved, List.cons_append, List.append_assoc, List.mem_cons,
    List.mem_append] at member
  rcases member with rfl | member | rfl | member | member | member | member | member | member
  · trivial
  · exact returns_controllerSteps 9 action member
  · trivial
  · exact returns_controllerSteps 11 action member
  · exact returns_workerSteps 1 2 action member
  · exact returns_workerSteps 2 7 action member
  · exact returns_workerSteps 3 1 action member
  · exact returns_workerSteps 4 1 action member
  · exact returns_controllerSteps 2 action member

/-- The controller waits for worker `1`, which waits for its lock; the others wait for commands. -/
def hangs (system : System Nat) : Bool :=
  (match system.controller with
    | .collecting [] 1 _ => (system.resultQ 1).isEmpty
    | _ => false) &&
  (match system.worker 1 with
    | .acquiring _ => (system.lock 1).isSome
    | _ => false) &&
  [2, 3, 4].all fun cpu => (system.commandQ cpu).isNone &&
    match system.worker cpu with
    | .waiting => true
    | _ => false

/-- No thread of a system that hangs can take another step. -/
theorem stuck_of_hangs {cpuAffinity : Bool} {stuck : System Nat} (hang : hangs stuck = true)
    (after : System Nat) : ¬ ReturningStep (fourWorkers cpuAffinity) loadsNothing stuck after := by
  rw [hangs, Bool.and_eq_true, Bool.and_eq_true, List.all_eq_true] at hang
  obtain ⟨⟨collects, acquires⟩, waiting⟩ := hang
  rintro ⟨action, _, taken⟩
  cases action with
  | controller choice =>
    split at collects
    · rename_i todo state
      simp only [next, controllerStep, state, List.isEmpty_iff.mp collects] at taken
      cases taken
    · cases collects
  | worker cpu outcome =>
    rw [next] at taken
    split at taken
    · rename_i member
      rcases List.mem_cons.mp member with rfl | member
      · split at acquires
        · rename_i task state
          have held : stuck.lock 1 ≠ none := Option.isSome_iff_ne_none.mp acquires
          simp only [workerStep, state, if_neg held] at taken
          cases taken
        · cases acquires
      · have idle := waiting cpu member
        rw [Bool.and_eq_true, Option.isNone_iff_eq_none] at idle
        obtain ⟨empty, waits⟩ := idle
        split at waits
        · rename_i state
          simp only [workerStep, state, empty] at taken
          cases taken
        · cases waits
    · cases taken

theorem shuttingDown_of_hangs {stuck : System Nat} (hang : hangs stuck = true) :
    stuck.controller.shuttingDown = true ∧ stuck.controller ≠ .finished := by
  rw [hangs, Bool.and_eq_true, Bool.and_eq_true] at hang
  have collects := hang.1.1
  split at collects
  · rename_i todo state
    rw [state]
    exact ⟨rfl, nofun⟩
  · cases collects

/-- Without affinity the shutdown can hang on a run that was accepted. -/
theorem not_exactlyOnce_without_affinity :
    ∃ system, ReturningReachable (fourWorkers false) loadsNothing system ∧
      ¬ ExactlyOnce (fourWorkers false) loadsNothing system := by
  obtain ⟨system, reachable, hang⟩ := returning_of_observed returns_queuedThenReserved (show
    (runActions (fourWorkers false) loadsNothing queuedThenReserved System.start).any hangs = true
      by decide +kernel)
  refine ⟨system, reachable, fun exactly => ?_⟩
  obtain ⟨down, unfinished⟩ := shuttingDown_of_hangs hang
  cases exactly.arrives down with
  | here reached => exact unfinished reached.1
  | later possible _ =>
    obtain ⟨after, step⟩ := possible
    exact stuck_of_hangs hang after step

/-- With affinity the shutdown of the same system returns every run. -/
theorem exactlyOnce_queuedThenReserved :
    ∃ system, ReturningReachable (fourWorkers true) loadsNothing system ∧
      system.controller.shuttingDown = true ∧ system.accepted.length = 2 ∧
      ExactlyOnce (fourWorkers true) loadsNothing system := by
  obtain ⟨system, reachable, observed⟩ := returning_of_observed returns_queuedThenReserved (show
    (runActions (fourWorkers true) loadsNothing queuedThenReserved System.start).any (fun system =>
      system.controller.shuttingDown && system.accepted.length == 2) = true by decide +kernel)
  rw [Bool.and_eq_true, beq_iff_eq] at observed
  exact ⟨system, reachable, observed.1, observed.2, exactlyOnce_of_givesBack reachable (.inl rfl)⟩

end Fleetbench.Parallel
