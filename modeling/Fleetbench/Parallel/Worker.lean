/-
This file models `parallel/worker.py`: the state that the worker threads and
the controller thread share, and one atomic step of a worker thread. Workers
are named by their CPU. Every operation on a queue, a flag or a lock is a step
of its own, and so is every system call; in between another thread may run.

Some of the state is ghost, which no step reads: in whose name a lock is held,
the number of run objects built, which runs were accepted and rejected, which
results a worker has posted and which were returned to the controller, and
which tasks ended without unblocking their extra workers.
-/

import Fleetbench.Parallel.Run
import Mathlib.Logic.Function.Basic

namespace Fleetbench.Parallel

/-! ### The data -/

abbrev Cpu := Int

/-- A run and the workers whose CPUs were reserved for it. -/
structure RunAndExtraWorkers where
  run : Run
  extraWorkers : List Cpu
  deriving DecidableEq, Repr

/-- In whose name a lock is held: the worker's own `with self._lock`, or the reservation made for
a run. -/
inductive Holder where
  | worker (cpu : Cpu)
  | reservation (serial : Nat)
  deriving DecidableEq, Repr

/-- A result together with the task it came from. -/
structure Delivery (Number : Type) where
  task : RunAndExtraWorkers
  result : Result Number

/-- Where a worker thread is in `Worker.run`. -/
inductive WorkerState (Number : Type) where
  | starting
  | waiting
  | acquiring (task : RunAndExtraWorkers)
  | widening (task : RunAndExtraWorkers)
  | executing (task : RunAndExtraWorkers)
  | posting (task : RunAndExtraWorkers) (result : Result Number)
  | narrowing (task : RunAndExtraWorkers)
  | unblocking (task : RunAndExtraWorkers) (todo : List Cpu)
  | unlocking (task : RunAndExtraWorkers) (cpu : Cpu) (todo : List Cpu)
  | releasing
  | stopping
  | exited
  | raising (task : RunAndExtraWorkers)
  | dead (task : RunAndExtraWorkers)

/-- The local variables of the scheduling loop while it looks for CPUs for one run. -/
structure Scan where
  run : Run
  requiredThreads : Int
  extraWorkers : List Cpu
  todo : List Cpu
  leastBusyCpus : List Cpu
  benchmarks : List Benchmark
  deriving DecidableEq, Repr

/-- Where the controller thread is in `_RunSchedulingLoop` or in the shutdown of `Run`. -/
inductive ControllerState (Number : Type) where
  | tick
  | scheduling (benchmarks : List Benchmark) (leastBusyCpus : List Cpu)
  | scanning (scan : Scan)
  | blocking (scan : Scan) (cpu : Cpu)
  | offering (scan : Scan) (cpu : Cpu)
  | abandoning (scan : Scan) (todo : List Cpu)
  | unlocking (scan : Scan) (cpu : Cpu) (todo : List Cpu)
  | draining (results : List (Delivery Number)) (todo : List Cpu)
  | stopping (todo : List Cpu)
  | collecting (results : List (Delivery Number)) (cpu : Cpu) (todo : List Cpu)
  | joining (todo : List Cpu)
  | finished

structure System (Number : Type) where
  lock : Cpu → Option Holder
  inUseAsExtraWorker : Cpu → Bool
  commandQ : Cpu → Option (Option RunAndExtraWorkers)
  resultQ : Cpu → List (Option (Delivery Number))
  affinityMask : Cpu → Option (List Cpu)
  worker : Cpu → WorkerState Number
  controller : ControllerState Number
  nextRunId : Nat
  created : Nat
  accepted : List (Cpu × RunAndExtraWorkers)
  rejected : List (Cpu × Run)
  posted : Cpu → List (Delivery Number)
  returned : Cpu → List (Delivery Number)
  leaked : List RunAndExtraWorkers

/-- The arguments of `ParallelBench` that the scheduler uses; the controller's CPU is the first
of the list it was given, the workers have the others. -/
structure Config where
  controllerCpu : Cpu
  cpus : List Cpu
  cpuAffinity : Bool
  benchmarkThreads : List (String × Int)
  tempRoot : String
  inhabited : cpus ≠ []
  distinct : (controllerCpu :: cpus).Nodup

variable {Number : Type}

/-! ### One step of a worker thread -/

/-- `if extra_workers and self._affinity`. -/
def Config.widens (config : Config) (task : RunAndExtraWorkers) : Bool :=
  !task.extraWorkers.isEmpty && config.cpuAffinity

/-- One step of the worker on `cpu`. There is none while it is blocked, on an empty queue or on
a lock that is held, and none once its thread has ended. The outcome matters only to a worker
that executes a run. Releasing a lock that is free raises an error, so there is no step there
either. -/
def workerStep (config : Config) (loads : String → Option (Value Number)) (cpu : Cpu)
    (outcome : Outcome Number) (system : System Number) : Option (System Number) :=
  match system.worker cpu with
  | .starting => some { system with
      affinityMask := if config.cpuAffinity then
        Function.update system.affinityMask cpu (some [cpu]) else system.affinityMask
      worker := Function.update system.worker cpu .waiting }
  | .waiting =>
    match system.commandQ cpu with
    | none => none
    | some none => some { system with
        commandQ := Function.update system.commandQ cpu none
        worker := Function.update system.worker cpu .stopping }
    | some (some task) => some { system with
        commandQ := Function.update system.commandQ cpu none
        worker := Function.update system.worker cpu (.acquiring task) }
  | .acquiring task =>
    if system.lock cpu = none then some { system with
      lock := Function.update system.lock cpu (some (.worker cpu))
      worker := Function.update system.worker cpu (.widening task) }
    else none
  | .widening task => some { system with
      affinityMask := if config.widens task then
        Function.update system.affinityMask cpu (some (cpu :: task.extraWorkers))
        else system.affinityMask
      worker := Function.update system.worker cpu (.executing task) }
  | .executing task =>
    match task.run.execute loads outcome with
    | some result => some { system with
        worker := Function.update system.worker cpu (.posting task result) }
    | none => some { system with
        worker := Function.update system.worker cpu (.raising task) }
  | .posting task result =>
    let delivered : System Number := { system with
      resultQ := Function.update system.resultQ cpu
        (system.resultQ cpu ++ [some ⟨task, result⟩])
      posted := Function.update system.posted cpu (system.posted cpu ++ [⟨task, result⟩]) }
    if config.widens task then some { delivered with
      worker := Function.update system.worker cpu (.narrowing task) }
    else some { delivered with
      worker := Function.update system.worker cpu .releasing
      leaked := system.leaked ++ [task] }
  | .narrowing task => some { system with
      affinityMask := Function.update system.affinityMask cpu (some [cpu])
      worker := Function.update system.worker cpu (.unblocking task task.extraWorkers) }
  | .unblocking _ [] => some { system with
      worker := Function.update system.worker cpu .releasing }
  | .unblocking task (extra :: todo) => some { system with
      inUseAsExtraWorker := Function.update system.inUseAsExtraWorker extra false
      worker := Function.update system.worker cpu (.unlocking task extra todo) }
  | .unlocking task extra todo =>
    if system.lock extra ≠ none then some { system with
      lock := Function.update system.lock extra none
      worker := Function.update system.worker cpu (.unblocking task todo) }
    else none
  | .releasing => some { system with
      lock := Function.update system.lock cpu none
      worker := Function.update system.worker cpu .waiting }
  | .stopping => some { system with
      resultQ := Function.update system.resultQ cpu (system.resultQ cpu ++ [none])
      worker := Function.update system.worker cpu .exited }
  | .raising task => some { system with
      lock := Function.update system.lock cpu none
      worker := Function.update system.worker cpu (.dead task) }
  | .exited => none
  | .dead _ => none

/-! ### What a worker thread can do -/

/-- The steps of a worker thread, one by one. -/
inductive WorkerMove (config : Config) (loads : String → Option (Value Number)) (cpu : Cpu)
    (system : System Number) : System Number → Prop where
  | start (state : system.worker cpu = .starting) :
      WorkerMove config loads cpu system { system with
        affinityMask := if config.cpuAffinity then
          Function.update system.affinityMask cpu (some [cpu]) else system.affinityMask
        worker := Function.update system.worker cpu .waiting }
  | takeStop (state : system.worker cpu = .waiting) (queued : system.commandQ cpu = some none) :
      WorkerMove config loads cpu system { system with
        commandQ := Function.update system.commandQ cpu none
        worker := Function.update system.worker cpu .stopping }
  | takeTask (task : RunAndExtraWorkers) (state : system.worker cpu = .waiting)
      (queued : system.commandQ cpu = some (some task)) :
      WorkerMove config loads cpu system { system with
        commandQ := Function.update system.commandQ cpu none
        worker := Function.update system.worker cpu (.acquiring task) }
  | acquire (task : RunAndExtraWorkers) (state : system.worker cpu = .acquiring task)
      (free : system.lock cpu = none) :
      WorkerMove config loads cpu system { system with
        lock := Function.update system.lock cpu (some (.worker cpu))
        worker := Function.update system.worker cpu (.widening task) }
  | widen (task : RunAndExtraWorkers) (state : system.worker cpu = .widening task) :
      WorkerMove config loads cpu system { system with
        affinityMask := if config.widens task then
          Function.update system.affinityMask cpu (some (cpu :: task.extraWorkers))
          else system.affinityMask
        worker := Function.update system.worker cpu (.executing task) }
  | executed (task : RunAndExtraWorkers) (outcome : Outcome Number) (result : Result Number)
      (state : system.worker cpu = .executing task)
      (returned : task.run.execute loads outcome = some result) :
      WorkerMove config loads cpu system { system with
        worker := Function.update system.worker cpu (.posting task result) }
  | failed (task : RunAndExtraWorkers) (outcome : Outcome Number)
      (state : system.worker cpu = .executing task)
      (raised : task.run.execute loads outcome = none) :
      WorkerMove config loads cpu system { system with
        worker := Function.update system.worker cpu (.raising task) }
  | post (task : RunAndExtraWorkers) (result : Result Number)
      (state : system.worker cpu = .posting task result) (widens : config.widens task = true) :
      WorkerMove config loads cpu system { system with
        resultQ := Function.update system.resultQ cpu
          (system.resultQ cpu ++ [some ⟨task, result⟩])
        posted := Function.update system.posted cpu (system.posted cpu ++ [⟨task, result⟩])
        worker := Function.update system.worker cpu (.narrowing task) }
  | postLast (task : RunAndExtraWorkers) (result : Result Number)
      (state : system.worker cpu = .posting task result) (stays : config.widens task = false) :
      WorkerMove config loads cpu system { system with
        resultQ := Function.update system.resultQ cpu
          (system.resultQ cpu ++ [some ⟨task, result⟩])
        posted := Function.update system.posted cpu (system.posted cpu ++ [⟨task, result⟩])
        worker := Function.update system.worker cpu .releasing
        leaked := system.leaked ++ [task] }
  | narrow (task : RunAndExtraWorkers) (state : system.worker cpu = .narrowing task) :
      WorkerMove config loads cpu system { system with
        affinityMask := Function.update system.affinityMask cpu (some [cpu])
        worker := Function.update system.worker cpu (.unblocking task task.extraWorkers) }
  | unblocked (task : RunAndExtraWorkers) (state : system.worker cpu = .unblocking task []) :
      WorkerMove config loads cpu system { system with
        worker := Function.update system.worker cpu .releasing }
  | unblock (task : RunAndExtraWorkers) (extra : Cpu) (todo : List Cpu)
      (state : system.worker cpu = .unblocking task (extra :: todo)) :
      WorkerMove config loads cpu system { system with
        inUseAsExtraWorker := Function.update system.inUseAsExtraWorker extra false
        worker := Function.update system.worker cpu (.unlocking task extra todo) }
  | unlock (task : RunAndExtraWorkers) (extra : Cpu) (todo : List Cpu)
      (state : system.worker cpu = .unlocking task extra todo)
      (held : system.lock extra ≠ none) :
      WorkerMove config loads cpu system { system with
        lock := Function.update system.lock extra none
        worker := Function.update system.worker cpu (.unblocking task todo) }
  | release (state : system.worker cpu = .releasing) :
      WorkerMove config loads cpu system { system with
        lock := Function.update system.lock cpu none
        worker := Function.update system.worker cpu .waiting }
  | stop (state : system.worker cpu = .stopping) :
      WorkerMove config loads cpu system { system with
        resultQ := Function.update system.resultQ cpu (system.resultQ cpu ++ [none])
        worker := Function.update system.worker cpu .exited }
  | die (task : RunAndExtraWorkers) (state : system.worker cpu = .raising task) :
      WorkerMove config loads cpu system { system with
        lock := Function.update system.lock cpu none
        worker := Function.update system.worker cpu (.dead task) }

theorem workerStep_move {config : Config} {loads : String → Option (Value Number)} {cpu : Cpu}
    {outcome : Outcome Number} {system next : System Number}
    (step : workerStep config loads cpu outcome system = some next) :
    WorkerMove config loads cpu system next := by
  unfold workerStep at step
  split at step
  case h_1 state =>
    cases step
    exact .start state
  case h_2 state =>
    split at step
    · cases step
    · rename_i queued
      cases step
      exact .takeStop state queued
    · rename_i task queued
      cases step
      exact .takeTask task state queued
  case h_3 task state =>
    split at step
    · rename_i free
      cases step
      exact .acquire task state free
    · cases step
  case h_4 task state =>
    cases step
    exact .widen task state
  case h_5 task state =>
    split at step
    · rename_i result returned
      cases step
      exact .executed task outcome result state returned
    · rename_i raised
      cases step
      exact .failed task outcome state raised
  case h_6 task result state =>
    simp only at step
    split at step
    · rename_i widens
      cases step
      exact .post task result state widens
    · rename_i stays
      cases step
      exact .postLast task result state (Bool.not_eq_true _ ▸ stays)
  case h_7 task state =>
    cases step
    exact .narrow task state
  case h_8 task state =>
    cases step
    exact .unblocked task state
  case h_9 task extra todo state =>
    cases step
    exact .unblock task extra todo state
  case h_10 task extra todo state =>
    split at step
    · rename_i held
      cases step
      exact .unlock task extra todo state held
    · cases step
  case h_11 state =>
    cases step
    exact .release state
  case h_12 state =>
    cases step
    exact .stop state
  case h_13 task state =>
    cases step
    exact .die task state
  case h_14 => cases step
  case h_15 => cases step

end Fleetbench.Parallel
