/-
This file shows that reserved CPUs are never mixed up. Seen from far enough
away, every step of the controller and of a worker is a step of a ledger whose
places are the controller, the command queues, the worker threads and the tasks
that ended without unblocking. The ledger stays balanced, and a lock is held in
a worker's own name exactly while the worker is inside its `with` block.
-/

import Fleetbench.Library.Reservation
import Fleetbench.Library.Transition
import Fleetbench.Parallel.Scheduler

namespace Fleetbench.Parallel

open Library

variable {Number : Type}

/-! ### The ledger of a system -/

/-- Where reserved CPUs can be. -/
inductive Place where
  | controller
  | queue (cpu : Cpu)
  | worker (cpu : Cpu)
  | leaked (index : Nat)
  deriving DecidableEq

def RunAndExtraWorkers.hold (task : RunAndExtraWorkers) : Hold Nat Cpu :=
  ⟨task.run.serial, task.extraWorkers, none⟩

def queueHold : Option (Option RunAndExtraWorkers) → Option (Hold Nat Cpu)
  | some (some task) => some task.hold
  | _ => none

theorem queueHold_eq_some {queue : Option (Option RunAndExtraWorkers)} {hold : Hold Nat Cpu}
    (found : queueHold queue = some hold) : ∃ task, queue = some (some task) ∧ task.hold = hold :=
  match queue, found with
  | some (some task), rfl => ⟨task, rfl, rfl⟩

def WorkerState.hold : WorkerState Number → Option (Hold Nat Cpu)
  | .acquiring task => some task.hold
  | .widening task => some task.hold
  | .executing task => some task.hold
  | .posting task _ => some task.hold
  | .narrowing task => some task.hold
  | .unblocking task todo => some ⟨task.run.serial, todo, none⟩
  | .unlocking task cpu todo => some ⟨task.run.serial, todo, some cpu⟩
  | .raising task => some task.hold
  | .dead task => some task.hold
  | _ => none

def ControllerState.hold : ControllerState Number → Option (Hold Nat Cpu)
  | .scanning scan => some ⟨scan.run.serial, scan.extraWorkers, none⟩
  | .blocking scan cpu => some ⟨scan.run.serial, scan.extraWorkers, some cpu⟩
  | .offering scan _ => some ⟨scan.run.serial, scan.extraWorkers, none⟩
  | .abandoning scan todo => some ⟨scan.run.serial, todo, none⟩
  | .unlocking scan cpu todo => some ⟨scan.run.serial, todo, some cpu⟩
  | _ => none

/-- What each place holds. -/
def holds (controller : ControllerState Number)
    (commandQ : Cpu → Option (Option RunAndExtraWorkers)) (worker : Cpu → WorkerState Number)
    (leaked : List RunAndExtraWorkers) : Place → Option (Hold Nat Cpu)
  | .controller => controller.hold
  | .queue cpu => queueHold (commandQ cpu)
  | .worker cpu => (worker cpu).hold
  | .leaked index => leaked[index]?.map RunAndExtraWorkers.hold

/-- The run a lock is reserved for. -/
def reservedFor : Option Holder → Option Nat
  | some (.reservation serial) => some serial
  | _ => none

/-- The worker that holds a lock in its own name. -/
def lockedBy : Option Holder → Option Cpu
  | some (.worker cpu) => some cpu
  | _ => none

def System.ledger (system : System Number) : Ledger Place Nat Cpu where
  hold := holds system.controller system.commandQ system.worker system.leaked
  reserved := fun cpu => reservedFor (system.lock cpu)
  flag := system.inUseAsExtraWorker

/-! ### How an update of the system shows in the ledger -/

section

variable (controller controller' : ControllerState Number)
  (commandQ : Cpu → Option (Option RunAndExtraWorkers)) (worker : Cpu → WorkerState Number)
  (leaked : List RunAndExtraWorkers) (cpu : Cpu)

theorem holds_controller : holds controller' commandQ worker leaked =
    Function.update (holds controller commandQ worker leaked) .controller controller'.hold := by
  funext place
  cases place <;> rfl

theorem holds_queue (queue : Option (Option RunAndExtraWorkers)) :
    holds controller (Function.update commandQ cpu queue) worker leaked =
      Function.update (holds controller commandQ worker leaked) (.queue cpu) (queueHold queue) := by
  funext place
  cases place with
  | queue other =>
    by_cases same : other = cpu
    · subst same
      simp [holds]
    · simp [holds, same]
  | controller => rfl
  | worker other => rfl
  | leaked index => rfl

theorem holds_worker (state : WorkerState Number) :
    holds controller commandQ (Function.update worker cpu state) leaked =
      Function.update (holds controller commandQ worker leaked) (.worker cpu) state.hold := by
  funext place
  cases place with
  | worker other =>
    by_cases same : other = cpu
    · subst same
      simp [holds]
    · simp [holds, same]
  | controller => rfl
  | queue other => rfl
  | leaked index => rfl

theorem holds_leaked (task : RunAndExtraWorkers) :
    holds controller commandQ worker (leaked ++ [task]) =
      Function.update (holds controller commandQ worker leaked) (.leaked leaked.length)
        (some task.hold) := by
  funext place
  cases place with
  | leaked index =>
    by_cases same : index = leaked.length
    · subst same
      simp [holds]
    · rw [Function.update_of_ne (by simpa using same)]
      show (leaked ++ [task])[index]?.map _ = leaked[index]?.map _
      rcases Nat.lt_or_ge index leaked.length with inside | outside
      · rw [List.getElem?_append_left inside]
      · rw [List.getElem?_eq_none outside,
          List.getElem?_eq_none (by rw [List.length_append, List.length_singleton]; omega)]
  | controller => rfl
  | queue other => rfl
  | worker other => rfl

theorem reserved_update (lock : Cpu → Option Holder) (holder : Option Holder) :
    (fun other => reservedFor (Function.update lock cpu holder other)) =
      Function.update (fun other => reservedFor (lock other)) cpu (reservedFor holder) := by
  funext other
  by_cases same : other = cpu
  · subst same
    simp
  · simp [same]

end

/-- A worker in these states is inside its `with self._lock` block. -/
def WorkerState.inLock : WorkerState Number → Bool
  | .widening _ => true
  | .executing _ => true
  | .posting _ _ => true
  | .narrowing _ => true
  | .unblocking _ _ => true
  | .unlocking _ _ _ => true
  | .releasing => true
  | .raising _ => true
  | _ => false

/-- The invariant: balanced books, locks held by their own workers only inside the `with` block,
and no place held by a run that has yet to be built. -/
structure Owned (system : System Number) : Prop where
  balanced : system.ledger.Balanced
  guarded : ∀ cpu, lockedBy (system.lock cpu) =
    if (system.worker cpu).inLock then some cpu else none
  fresh : ∀ place hold, system.ledger.hold place = some hold → hold.owner < system.created

theorem owned_start : Owned (System.start : System Number) := by
  have nothing : ∀ place, (System.start : System Number).ledger.hold place = none := by
    intro place
    cases place <;> rfl
  refine ⟨⟨?_, ?_, ?_, ?_⟩, ?_, ?_⟩
  · intro p q first second atFirst
    rw [nothing] at atFirst
    cases atFirst
  · intro p hold atPlace
    rw [nothing] at atPlace
    cases atPlace
  · intro cpu owner
    constructor
    · intro locked
      cases locked
    · rintro ⟨p, hold, atPlace, _⟩
      rw [nothing] at atPlace
      cases atPlace
  · intro cpu
    constructor
    · intro up
      cases up
    · rintro ⟨p, hold, atPlace, _⟩
      rw [nothing] at atPlace
      cases atPlace
  · intro cpu
    rfl
  · intro place hold atPlace
    rw [nothing] at atPlace
    cases atPlace

/-! ### Every step is a step of the ledger -/

variable {config : Config} {loads : String → Option (Value Number)} {before after : System Number}
  {cpu : Cpu}

/-- One step of the ledger, or none; only runs that have been built may enter it. -/
def LedgerMoves (before after : System Number) : Prop :=
  after.ledger = before.ledger ∨
    Ledger.Step (· < after.created) before.ledger after.ledger

theorem Owned.lock_of_reserved (owned : Owned before) {place : Place} {hold : Hold Nat Cpu}
    (found : before.ledger.hold place = some hold) {resource : Cpu}
    (member : resource ∈ hold.claims) :
    before.lock resource = some (.reservation hold.owner) := by
  have reserved := (owned.balanced.reserved resource hold.owner).mpr
    ⟨place, hold, found, rfl, member⟩
  change reservedFor (before.lock resource) = some hold.owner at reserved
  generalize before.lock resource = holder at reserved
  match holder, reserved with
  | some (.reservation _), rfl => rfl

theorem Owned.lock_of_inLock (owned : Owned before)
    (inside : (before.worker cpu).inLock = true) :
    before.lock cpu = some (.worker cpu) := by
  have guarded := owned.guarded cpu
  rw [inside, if_pos rfl] at guarded
  generalize before.lock cpu = holder at guarded
  match holder, guarded with
  | some (.worker _), rfl => rfl

theorem LedgerMoves.of_step {target : Ledger Place Nat Cpu}
    (step : Ledger.Step (· < after.created) before.ledger target)
    (same : after.ledger = target) : LedgerMoves before after := by
  subst same
  exact .inr step

theorem holds_worker_same (before : System Number) (cpu : Cpu) {state : WorkerState Number}
    (same : state.hold = (before.worker cpu).hold) :
    holds before.controller before.commandQ (Function.update before.worker cpu state)
      before.leaked = before.ledger.hold := by
  rw [holds_worker, same]
  exact Function.update_eq_self _ _

theorem holds_controller_same (before : System Number) {state : ControllerState Number}
    (same : state.hold = before.controller.hold) :
    holds state before.commandQ before.worker before.leaked = before.ledger.hold := by
  rw [holds_controller before.controller, same]
  exact Function.update_eq_self _ _

/-- A worker that keeps what it holds leaves the ledger alone. -/
theorem LedgerMoves.of_worker {state next : WorkerState Number}
    (current : before.worker cpu = state)
    (rest : after.ledger = { before.ledger with
      hold := holds before.controller before.commandQ (Function.update before.worker cpu next)
        before.leaked })
    (same : next.hold = state.hold) : LedgerMoves before after := by
  refine .inl (rest.trans (Ledger.ext (holds_worker_same before cpu ?_) rfl rfl))
  rw [same, current]

/-- So does the controller. -/
theorem LedgerMoves.of_controller {state : ControllerState Number}
    (current : before.controller = state)
    (rest : after.ledger = { before.ledger with
      hold := holds after.controller before.commandQ before.worker before.leaked })
    (same : after.controller.hold = state.hold) : LedgerMoves before after := by
  refine .inl (rest.trans (Ledger.ext (holds_controller_same before ?_) rfl rfl))
  rw [same, current]

theorem reserved_same (before : System Number) (cpu : Cpu) {holder : Option Holder}
    (same : reservedFor holder = reservedFor (before.lock cpu)) :
    (fun other => reservedFor (Function.update before.lock cpu holder other)) =
      before.ledger.reserved := by
  rw [reserved_update, same]
  exact Function.update_eq_self _ _

theorem ledger_workerMove (owned : Owned before)
    (move : WorkerMove config loads cpu before after) : LedgerMoves before after := by
  have holdAt : ∀ state, before.worker cpu = state →
      before.ledger.hold (.worker cpu) = state.hold := by
    rintro state rfl
    rfl
  cases move with
  | start state => exact .of_worker state rfl rfl
  | takeStop state queued =>
    refine .inl (Ledger.ext ?_ rfl rfl)
    have vacant : queueHold none = queueHold (before.commandQ cpu) := by
      rw [queued]
      rfl
    show holds before.controller (Function.update before.commandQ cpu none)
      (Function.update before.worker cpu .stopping) before.leaked = before.ledger.hold
    rw [holds_worker, holds_queue, vacant]
    show Function.update (Function.update before.ledger.hold (.queue cpu)
      (before.ledger.hold (.queue cpu))) (.worker cpu) none = _
    have idle : none = before.ledger.hold (.worker cpu) := (holdAt _ state).symm
    rw [Function.update_eq_self, idle, Function.update_eq_self]
  | takeTask task state queued =>
    have found : before.ledger.hold (.queue cpu) = some task.hold := by
      show queueHold (before.commandQ cpu) = _
      rw [queued]
      rfl
    refine .of_step (.move found (holdAt _ state)) (Ledger.ext ?_ rfl rfl)
    show holds before.controller (Function.update before.commandQ cpu none)
      (Function.update before.worker cpu (.acquiring task)) before.leaked = _
    rw [holds_worker, holds_queue]
    rfl
  | acquire task state free =>
    exact .inl (Ledger.ext (holds_worker_same before cpu (by rw [state]; rfl))
      (reserved_same before cpu (by rw [free]; rfl)) rfl)
  | widen task state => exact .of_worker state rfl rfl
  | executed task outcome result state returned => exact .of_worker state rfl rfl
  | failed task outcome state raised => exact .of_worker state rfl rfl
  | post task result state widens => exact .of_worker state rfl rfl
  | postLast task result state stays =>
    have vacant : before.ledger.hold (.leaked before.leaked.length) = none := by
      show before.leaked[before.leaked.length]?.map _ = none
      rw [List.getElem?_eq_none (Nat.le_refl _)]
      rfl
    refine .of_step (.move (holdAt _ state) vacant) (Ledger.ext ?_ rfl rfl)
    show holds before.controller before.commandQ (Function.update before.worker cpu .releasing)
      (before.leaked ++ [task]) = _
    rw [holds_leaked, holds_worker]
    rfl
  | narrow task state => exact .of_worker state rfl rfl
  | unblocked task state =>
    exact .of_step (.leave (holdAt _ state) rfl) (Ledger.ext (holds_worker _ _ _ _ _ _) rfl rfl)
  | unblock task extra todo state =>
    exact .of_step (.lower (holdAt _ state) rfl rfl)
      (Ledger.ext (holds_worker _ _ _ _ _ _) rfl rfl)
  | unlock task extra todo state held =>
    exact .of_step (.release (holdAt _ state) rfl)
      (Ledger.ext (holds_worker _ _ _ _ _ _) (reserved_update _ _ _) rfl)
  | release state =>
    have own : before.lock cpu = some (.worker cpu) :=
      owned.lock_of_inLock (by rw [state]; rfl)
    exact .inl (Ledger.ext (holds_worker_same before cpu (by rw [state]; rfl))
      (reserved_same before cpu (by rw [own]; rfl)) rfl)
  | stop state => exact .of_worker state rfl rfl
  | die task state =>
    have own : before.lock cpu = some (.worker cpu) :=
      owned.lock_of_inLock (by rw [state]; rfl)
    exact .inl (Ledger.ext (holds_worker_same before cpu (by rw [state]; rfl))
      (reserved_same before cpu (by rw [own]; rfl)) rfl)

theorem ledger_controllerMove (owned : Owned before) (move : ControllerMove config before after) :
    LedgerMoves before after := by
  have holdAt : ∀ state, before.controller = state →
      before.ledger.hold .controller = state.hold := by
    rintro state rfl
    rfl
  cases move with
  | expire state => exact .of_controller state rfl rfl
  | pass _ _ state _ => exact .of_controller state rfl rfl
  | scheduled _ state => exact .of_controller state rfl rfl
  | build benchmark benchmarks leastBusyCpus state =>
    refine .of_step (.enter (Nat.lt_succ_self _) (holdAt _ state) fun q hold found => ?_)
      (Ledger.ext (holds_controller _ _ _ _ _) rfl rfl)
    exact Nat.ne_of_lt (owned.fresh q hold found)
  | exhaust scan state none => exact .of_controller state rfl rfl
  | block scan cpu todo state first more free =>
    have unreserved : before.ledger.reserved cpu = none := by
      show reservedFor (before.lock cpu) = none
      rw [free]
      rfl
    exact .of_step (.acquire (holdAt _ state) rfl unreserved)
      (Ledger.ext (holds_controller _ _ _ _ _) (reserved_update _ _ _) rfl)
  | skip scan cpu todo state first more held => exact .of_controller state rfl rfl
  | rejectInUse scan cpu todo state first last inUse => exact .of_controller state rfl rfl
  | offer scan cpu todo state first last idle => exact .of_controller state rfl rfl
  | reserve scan cpu state =>
    exact .of_step (.raise (holdAt _ state) rfl) (Ledger.ext (holds_controller _ _ _ _ _) rfl rfl)
  | rejectFull scan cpu state full => exact .of_controller state rfl rfl
  | accept scan cpu state empty =>
    have vacant : before.ledger.hold (.queue cpu) = none := by
      show queueHold (before.commandQ cpu) = none
      rw [empty]
      rfl
    refine .of_step (.move (holdAt _ state) vacant) (Ledger.ext ?_ rfl rfl)
    show holds (.scheduling scan.benchmarks (scan.leastBusyCpus.erase cpu))
      (Function.update before.commandQ cpu (some (some ⟨scan.run, scan.extraWorkers⟩)))
      before.worker before.leaked = _
    rw [holds_queue, holds_controller before.controller]
    rfl
  | abandoned scan state =>
    exact .of_step (.leave (holdAt _ state) rfl) (Ledger.ext (holds_controller _ _ _ _ _) rfl rfl)
  | unblock scan extra todo state =>
    exact .of_step (.lower (holdAt _ state) rfl rfl)
      (Ledger.ext (holds_controller _ _ _ _ _) rfl rfl)
  | unlock scan extra todo state held =>
    exact .of_step (.release (holdAt _ state) rfl)
      (Ledger.ext (holds_controller _ _ _ _ _) (reserved_update _ _ _) rfl)
  | drained _ state => exact .of_controller state rfl rfl
  | drainEmpty _ _ _ state _ => exact .of_controller state rfl rfl
  | drainNone _ _ _ _ state _ => exact .of_controller state rfl rfl
  | drain _ _ _ _ _ state _ => exact .of_controller state rfl rfl
  | stopped state => exact .of_controller state rfl rfl
  | stop cpu todo state empty =>
    refine .inl (Ledger.ext ?_ rfl rfl)
    have vacant : queueHold (some none) = queueHold (before.commandQ cpu) := by
      rw [empty]
      rfl
    show holds (.collecting [] cpu todo) (Function.update before.commandQ cpu (some none))
      before.worker before.leaked = before.ledger.hold
    rw [holds_queue, vacant, holds_controller_same before (by rw [state]; rfl)]
    exact Function.update_eq_self _ _
  | collected _ _ _ _ state _ => exact .of_controller state rfl rfl
  | collect _ _ _ _ _ state _ => exact .of_controller state rfl rfl
  | joined state => exact .of_controller state rfl rfl
  | join _ _ state _ => exact .of_controller state rfl rfl

/-! ### The invariant is kept -/

/-- A step inside or outside the `with` block leaves the guard alone. -/
theorem Owned.guarded_same (owned : Owned before) {state : WorkerState Number}
    (same : state.inLock = (before.worker cpu).inLock) (other : Cpu) :
    lockedBy (before.lock other) =
      if (Function.update before.worker cpu state other).inLock then some other else none := by
  by_cases here : other = cpu
  · rw [here, Function.update_self, same]
    exact owned.guarded cpu
  · rw [Function.update_of_ne here]
    exact owned.guarded other

theorem lockedBy_update {lock : Cpu → Option Holder} {holder : Option Holder}
    (same : lockedBy holder = lockedBy (lock cpu)) (other : Cpu) :
    lockedBy (Function.update lock cpu holder other) = lockedBy (lock other) := by
  by_cases here : other = cpu
  · rw [here, Function.update_self]
    exact same
  · rw [Function.update_of_ne here]

/-- A worker that takes or gives back its own lock enters or leaves its `with` block. -/
theorem Owned.guarded_own (owned : Owned before) {holder : Option Holder}
    {state : WorkerState Number}
    (agree : lockedBy holder = if state.inLock then some cpu else none) (other : Cpu) :
    lockedBy (Function.update before.lock cpu holder other) =
      if (Function.update before.worker cpu state other).inLock then some other else none := by
  by_cases here : other = cpu
  · rw [here, Function.update_self, Function.update_self]
    exact agree
  · rw [Function.update_of_ne here, Function.update_of_ne here]
    exact owned.guarded other

theorem guarded_workerMove (owned : Owned before)
    (move : WorkerMove config loads cpu before after) (other : Cpu) :
    lockedBy (after.lock other) = if (after.worker other).inLock then some other else none := by
  cases move with
  | start state => exact owned.guarded_same (by rw [state]; rfl) other
  | takeStop state _ =>
    exact owned.guarded_same (by rw [state]; rfl) other
  | takeTask task state _ =>
    exact owned.guarded_same (by rw [state]; rfl) other
  | acquire task state free => exact owned.guarded_own rfl other
  | widen task state =>
    exact owned.guarded_same (by rw [state]; rfl) other
  | executed task outcome result state returned =>
    exact owned.guarded_same (by rw [state]; rfl) other
  | failed task outcome state raised =>
    exact owned.guarded_same (by rw [state]; rfl) other
  | post task result state widens =>
    exact owned.guarded_same (by rw [state]; rfl) other
  | postLast task result state stays =>
    exact owned.guarded_same (by rw [state]; rfl) other
  | narrow task state =>
    exact owned.guarded_same (by rw [state]; rfl) other
  | unblocked task state =>
    exact owned.guarded_same (by rw [state]; rfl) other
  | unblock task extra todo state =>
    exact owned.guarded_same (by rw [state]; rfl) other
  | unlock task extra todo state held =>
    have found : before.ledger.hold (.worker cpu) = some ⟨task.run.serial, todo, some extra⟩ := by
      show (before.worker cpu).hold = _
      rw [state]
      rfl
    have reserved := owned.lock_of_reserved found (Hold.mem_claims_of_pending rfl)
    exact (lockedBy_update (by rw [reserved]; rfl) other).trans
      (owned.guarded_same (by rw [state]; rfl) other)
  | release state => exact owned.guarded_own rfl other
  | stop state => exact owned.guarded_same (by rw [state]; rfl) other
  | die task state => exact owned.guarded_own rfl other

theorem guarded_controllerMove (owned : Owned before) (move : ControllerMove config before after)
    (other : Cpu) :
    lockedBy (after.lock other) = if (after.worker other).inLock then some other else none := by
  cases move with
  | block scan cpu todo state first more free =>
    exact (lockedBy_update (by rw [free]; rfl) other).trans (owned.guarded other)
  | unlock scan extra todo state held =>
    have found : before.ledger.hold .controller = some ⟨scan.run.serial, todo, some extra⟩ := by
      show before.controller.hold = _
      rw [state]
      rfl
    have reserved := owned.lock_of_reserved found (Hold.mem_claims_of_pending rfl)
    exact (lockedBy_update (by rw [reserved]; rfl) other).trans (owned.guarded other)
  | _ => exact owned.guarded other

theorem created_le (step : Step config loads before after) : before.created ≤ after.created := by
  obtain ⟨cpu, _, move⟩ | move := step.cases
  · cases move <;> exact Nat.le_refl _
  · cases move with
    | build => exact Nat.le_succ _
    | _ => exact Nat.le_refl _

/-- Every step of the system is a step of its ledger. -/
theorem ledger_step (owned : Owned before) (step : Step config loads before after) :
    LedgerMoves before after := by
  obtain ⟨cpu, _, move⟩ | move := step.cases
  · exact ledger_workerMove owned move
  · exact ledger_controllerMove owned move

theorem owned_step (owned : Owned before) (step : Step config loads before after) :
    Owned after := by
  refine ⟨?_, ?_, ?_⟩
  · rcases ledger_step owned step with same | moves
    · rw [same]
      exact owned.balanced
    · exact moves.balanced owned.balanced
  · obtain ⟨cpu, _, move⟩ | move := step.cases
    · exact guarded_workerMove owned move
    · exact guarded_controllerMove owned move
  · intro place hold found
    rcases ledger_step owned step with same | moves
    · rw [same] at found
      exact Nat.lt_of_lt_of_le (owned.fresh place hold found) (created_le step)
    · rcases moves.owner found with ⟨origin, earlier, atOrigin, sameOwner⟩ | admitted
      · rw [← sameOwner]
        exact Nat.lt_of_lt_of_le (owned.fresh origin earlier atOrigin) (created_le step)
      · exact admitted

theorem owned_reachable {system : System Number} (reachable : Reachable config loads system) :
    Owned system :=
  reachable_invariant owned_start (fun _ _ owned step => owned_step owned step) reachable

end Fleetbench.Parallel
