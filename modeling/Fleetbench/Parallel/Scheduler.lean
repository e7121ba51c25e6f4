/-
This file models the controller thread: `ParallelBench._RunSchedulingLoop` and
the shutdown at the end of `ParallelBench.Run` (`parallel/parallel_bench_lib.py`),
together with the methods of `Worker` that it calls. With the worker threads it
makes a transition system in which any thread may take the next step.

What the controller decides by measuring time, utilization and chance is its
choice at the start of a pass: whether the duration has expired, which
benchmarks to run, and in which order to try the CPUs.
-/

import Fleetbench.Parallel.Worker
import Mathlib.Logic.Relation

namespace Fleetbench.Parallel

variable {Number : Type}

/-! ### One step of the controller thread -/

/-- What the controller decides at the start of a pass. -/
inductive Choice where
  | expire
  | pass (benchmarks : List Benchmark) (leastBusyCpus : List Cpu)
  deriving DecidableEq, Repr

/-- `self.benchmark_threads.get(benchmark.BenchmarkName(), 1)`. -/
def Config.requiredThreads (config : Config) (benchmark : Benchmark) : Int :=
  (config.benchmarkThreads.lookup benchmark.benchmarkName).getD 1

/-- The run built for the next benchmark. -/
def System.nextRun (config : Config) (system : System Number) (benchmark : Benchmark) : Run :=
  ⟨benchmark, outFilePath config.tempRoot system.nextRunId, system.created⟩

/-- One step of the controller. There is none while it waits for a full command queue, an empty
result queue or a thread that has not ended, and none after the last worker has been joined. -/
def controllerStep (config : Config) (choice : Choice) (system : System Number) :
    Option (System Number) :=
  match system.controller with
  | .tick =>
    match choice with
    | .expire => some { system with controller := .stopping config.cpus }
    | .pass benchmarks leastBusyCpus =>
      if leastBusyCpus.Perm config.cpus then
        some { system with controller := .scheduling benchmarks leastBusyCpus }
      else none
  | .scheduling [] _ => some { system with controller := .draining [] config.cpus }
  | .scheduling (benchmark :: benchmarks) leastBusyCpus => some { system with
      controller := .scanning {
        run := system.nextRun config benchmark
        requiredThreads := config.requiredThreads benchmark
        extraWorkers := []
        todo := leastBusyCpus
        leastBusyCpus
        benchmarks }
      created := system.created + 1 }
  | .scanning scan =>
    match scan.todo with
    | [] => some { system with controller := .abandoning scan scan.extraWorkers }
    | cpu :: todo =>
      if 1 < scan.requiredThreads then
        if system.lock cpu = none then some { system with
          lock := Function.update system.lock cpu (some (.reservation scan.run.serial))
          controller := .blocking { scan with todo } cpu }
        else some { system with controller := .scanning { scan with todo } }
      else if system.inUseAsExtraWorker cpu then some { system with
        rejected := system.rejected ++ [(cpu, scan.run)]
        controller := .scanning { scan with todo } }
      else some { system with controller := .offering { scan with todo } cpu }
  | .blocking scan cpu => some { system with
      inUseAsExtraWorker := Function.update system.inUseAsExtraWorker cpu true
      controller := .scanning { scan with
        extraWorkers := scan.extraWorkers ++ [cpu]
        leastBusyCpus := scan.leastBusyCpus.erase cpu
        requiredThreads := scan.requiredThreads - 1 } }
  | .offering scan cpu =>
    match system.commandQ cpu with
    | some _ => some { system with
        rejected := system.rejected ++ [(cpu, scan.run)]
        controller := .scanning scan }
    | none => some { system with
        commandQ := Function.update system.commandQ cpu
          (some (some ⟨scan.run, scan.extraWorkers⟩))
        nextRunId := system.nextRunId + 1
        accepted := system.accepted ++ [(cpu, ⟨scan.run, scan.extraWorkers⟩)]
        controller := .scheduling scan.benchmarks (scan.leastBusyCpus.erase cpu) }
  | .abandoning scan [] => some { system with
      controller := .scheduling scan.benchmarks scan.leastBusyCpus }
  | .abandoning scan (extra :: todo) => some { system with
      inUseAsExtraWorker := Function.update system.inUseAsExtraWorker extra false
      controller := .unlocking scan extra todo }
  | .unlocking scan extra todo =>
    if system.lock extra ≠ none then some { system with
      lock := Function.update system.lock extra none
      controller := .abandoning scan todo }
    else none
  | .draining _ [] => some { system with controller := .tick }
  | .draining results (cpu :: todo) =>
    match system.resultQ cpu with
    | [] => some { system with
        returned := Function.update system.returned cpu (system.returned cpu ++ results)
        controller := .draining [] todo }
    | none :: rest => some { system with
        resultQ := Function.update system.resultQ cpu rest
        returned := Function.update system.returned cpu (system.returned cpu ++ results)
        controller := .draining [] todo }
    | some delivery :: rest => some { system with
        resultQ := Function.update system.resultQ cpu rest
        controller := .draining (results ++ [delivery]) (cpu :: todo) }
  | .stopping [] => some { system with controller := .joining config.cpus }
  | .stopping (cpu :: todo) =>
    if system.commandQ cpu = none then some { system with
      commandQ := Function.update system.commandQ cpu (some none)
      controller := .collecting [] cpu todo }
    else none
  | .collecting results cpu todo =>
    match system.resultQ cpu with
    | [] => none
    | none :: rest => some { system with
        resultQ := Function.update system.resultQ cpu rest
        returned := Function.update system.returned cpu (system.returned cpu ++ results)
        controller := .stopping todo }
    | some delivery :: rest => some { system with
        resultQ := Function.update system.resultQ cpu rest
        controller := .collecting (results ++ [delivery]) cpu todo }
  | .joining [] => some { system with controller := .finished }
  | .joining (cpu :: todo) =>
    match system.worker cpu with
    | .exited => some { system with controller := .joining todo }
    | .dead _ => some { system with controller := .joining todo }
    | _ => none
  | .finished => none

/-! ### What the controller thread can do -/

/-- The steps of the controller thread, one by one. -/
inductive ControllerMove (config : Config) (system : System Number) : System Number → Prop where
  | expire (state : system.controller = .tick) :
      ControllerMove config system { system with controller := .stopping config.cpus }
  | pass (benchmarks : List Benchmark) (leastBusyCpus : List Cpu)
      (state : system.controller = .tick) (all : leastBusyCpus.Perm config.cpus) :
      ControllerMove config system { system with
        controller := .scheduling benchmarks leastBusyCpus }
  | scheduled (leastBusyCpus : List Cpu)
      (state : system.controller = .scheduling [] leastBusyCpus) :
      ControllerMove config system { system with controller := .draining [] config.cpus }
  | build (benchmark : Benchmark) (benchmarks : List Benchmark) (leastBusyCpus : List Cpu)
      (state : system.controller = .scheduling (benchmark :: benchmarks) leastBusyCpus) :
      ControllerMove config system { system with
        controller := .scanning {
          run := system.nextRun config benchmark
          requiredThreads := config.requiredThreads benchmark
          extraWorkers := []
          todo := leastBusyCpus
          leastBusyCpus
          benchmarks }
        created := system.created + 1 }
  | exhaust (scan : Scan) (state : system.controller = .scanning scan) (none : scan.todo = []) :
      ControllerMove config system { system with
        controller := .abandoning scan scan.extraWorkers }
  | block (scan : Scan) (cpu : Cpu) (todo : List Cpu)
      (state : system.controller = .scanning scan) (first : scan.todo = cpu :: todo)
      (more : 1 < scan.requiredThreads) (free : system.lock cpu = none) :
      ControllerMove config system { system with
        lock := Function.update system.lock cpu (some (.reservation scan.run.serial))
        controller := .blocking { scan with todo } cpu }
  | skip (scan : Scan) (cpu : Cpu) (todo : List Cpu)
      (state : system.controller = .scanning scan) (first : scan.todo = cpu :: todo)
      (more : 1 < scan.requiredThreads) (held : system.lock cpu ≠ none) :
      ControllerMove config system { system with controller := .scanning { scan with todo } }
  | rejectInUse (scan : Scan) (cpu : Cpu) (todo : List Cpu)
      (state : system.controller = .scanning scan) (first : scan.todo = cpu :: todo)
      (last : scan.requiredThreads ≤ 1) (inUse : system.inUseAsExtraWorker cpu = true) :
      ControllerMove config system { system with
        rejected := system.rejected ++ [(cpu, scan.run)]
        controller := .scanning { scan with todo } }
  | offer (scan : Scan) (cpu : Cpu) (todo : List Cpu)
      (state : system.controller = .scanning scan) (first : scan.todo = cpu :: todo)
      (last : scan.requiredThreads ≤ 1) (idle : system.inUseAsExtraWorker cpu = false) :
      ControllerMove config system { system with controller := .offering { scan with todo } cpu }
  | reserve (scan : Scan) (cpu : Cpu) (state : system.controller = .blocking scan cpu) :
      ControllerMove config system { system with
        inUseAsExtraWorker := Function.update system.inUseAsExtraWorker cpu true
        controller := .scanning { scan with
          extraWorkers := scan.extraWorkers ++ [cpu]
          leastBusyCpus := scan.leastBusyCpus.erase cpu
          requiredThreads := scan.requiredThreads - 1 } }
  | rejectFull (scan : Scan) (cpu : Cpu) (state : system.controller = .offering scan cpu)
      (full : system.commandQ cpu ≠ none) :
      ControllerMove config system { system with
        rejected := system.rejected ++ [(cpu, scan.run)]
        controller := .scanning scan }
  | accept (scan : Scan) (cpu : Cpu) (state : system.controller = .offering scan cpu)
      (empty : system.commandQ cpu = none) :
      ControllerMove config system { system with
        commandQ := Function.update system.commandQ cpu
          (some (some ⟨scan.run, scan.extraWorkers⟩))
        nextRunId := system.nextRunId + 1
        accepted := system.accepted ++ [(cpu, ⟨scan.run, scan.extraWorkers⟩)]
        controller := .scheduling scan.benchmarks (scan.leastBusyCpus.erase cpu) }
  | abandoned (scan : Scan) (state : system.controller = .abandoning scan []) :
      ControllerMove config system { system with
        controller := .scheduling scan.benchmarks scan.leastBusyCpus }
  | unblock (scan : Scan) (extra : Cpu) (todo : List Cpu)
      (state : system.controller = .abandoning scan (extra :: todo)) :
      ControllerMove config system { system with
        inUseAsExtraWorker := Function.update system.inUseAsExtraWorker extra false
        controller := .unlocking scan extra todo }
  | unlock (scan : Scan) (extra : Cpu) (todo : List Cpu)
      (state : system.controller = .unlocking scan extra todo)
      (held : system.lock extra ≠ none) :
      ControllerMove config system { system with
        lock := Function.update system.lock extra none
        controller := .abandoning scan todo }
  | drained (results : List (Delivery Number)) (state : system.controller = .draining results []) :
      ControllerMove config system { system with controller := .tick }
  | drainEmpty (results : List (Delivery Number)) (cpu : Cpu) (todo : List Cpu)
      (state : system.controller = .draining results (cpu :: todo))
      (empty : system.resultQ cpu = []) :
      ControllerMove config system { system with
        returned := Function.update system.returned cpu (system.returned cpu ++ results)
        controller := .draining [] todo }
  | drainNone (results : List (Delivery Number)) (cpu : Cpu) (todo : List Cpu)
      (rest : List (Option (Delivery Number)))
      (state : system.controller = .draining results (cpu :: todo))
      (queued : system.resultQ cpu = none :: rest) :
      ControllerMove config system { system with
        resultQ := Function.update system.resultQ cpu rest
        returned := Function.update system.returned cpu (system.returned cpu ++ results)
        controller := .draining [] todo }
  | drain (results : List (Delivery Number)) (cpu : Cpu) (todo : List Cpu)
      (delivery : Delivery Number) (rest : List (Option (Delivery Number)))
      (state : system.controller = .draining results (cpu :: todo))
      (queued : system.resultQ cpu = some delivery :: rest) :
      ControllerMove config system { system with
        resultQ := Function.update system.resultQ cpu rest
        controller := .draining (results ++ [delivery]) (cpu :: todo) }
  | stopped (state : system.controller = .stopping []) :
      ControllerMove config system { system with controller := .joining config.cpus }
  | stop (cpu : Cpu) (todo : List Cpu) (state : system.controller = .stopping (cpu :: todo))
      (empty : system.commandQ cpu = none) :
      ControllerMove config system { system with
        commandQ := Function.update system.commandQ cpu (some none)
        controller := .collecting [] cpu todo }
  | collected (results : List (Delivery Number)) (cpu : Cpu) (todo : List Cpu)
      (rest : List (Option (Delivery Number)))
      (state : system.controller = .collecting results cpu todo)
      (queued : system.resultQ cpu = none :: rest) :
      ControllerMove config system { system with
        resultQ := Function.update system.resultQ cpu rest
        returned := Function.update system.returned cpu (system.returned cpu ++ results)
        controller := .stopping todo }
  | collect (results : List (Delivery Number)) (cpu : Cpu) (todo : List Cpu)
      (delivery : Delivery Number) (rest : List (Option (Delivery Number)))
      (state : system.controller = .collecting results cpu todo)
      (queued : system.resultQ cpu = some delivery :: rest) :
      ControllerMove config system { system with
        resultQ := Function.update system.resultQ cpu rest
        controller := .collecting (results ++ [delivery]) cpu todo }
  | joined (state : system.controller = .joining []) :
      ControllerMove config system { system with controller := .finished }
  | join (cpu : Cpu) (todo : List Cpu) (state : system.controller = .joining (cpu :: todo))
      (ended : system.worker cpu = .exited ∨ ∃ task, system.worker cpu = .dead task) :
      ControllerMove config system { system with controller := .joining todo }

theorem controllerStep_move {config : Config} {choice : Choice} {system next : System Number}
    (step : controllerStep config choice system = some next) :
    ControllerMove config system next := by
  unfold controllerStep at step
  split at step
  case h_1 state =>
    split at step
    · cases step
      exact .expire state
    · split at step
      · rename_i all
        cases step
        exact .pass _ _ state all
      · cases step
  case h_2 leastBusyCpus state =>
    cases step
    exact .scheduled leastBusyCpus state
  case h_3 benchmark benchmarks leastBusyCpus state =>
    cases step
    exact .build benchmark benchmarks leastBusyCpus state
  case h_4 scan state =>
    split at step
    · rename_i none
      cases step
      exact .exhaust scan state none
    · rename_i cpu todo first
      split at step
      · rename_i more
        split at step
        · rename_i free
          cases step
          exact .block scan cpu todo state first more free
        · rename_i held
          cases step
          exact .skip scan cpu todo state first more held
      · rename_i last
        split at step
        · rename_i inUse
          cases step
          exact .rejectInUse scan cpu todo state first (Int.not_lt.mp last) inUse
        · rename_i idle
          cases step
          exact .offer scan cpu todo state first (Int.not_lt.mp last)
            (Bool.eq_false_iff.mpr idle)
  case h_5 scan cpu state =>
    cases step
    exact .reserve scan cpu state
  case h_6 scan cpu state =>
    split at step
    · rename_i full
      cases step
      exact .rejectFull scan cpu state (by rw [full]; exact Option.some_ne_none _)
    · rename_i empty
      cases step
      exact .accept scan cpu state empty
  case h_7 scan state =>
    cases step
    exact .abandoned scan state
  case h_8 scan extra todo state =>
    cases step
    exact .unblock scan extra todo state
  case h_9 scan extra todo state =>
    split at step
    · rename_i held
      cases step
      exact .unlock scan extra todo state held
    · cases step
  case h_10 results state =>
    cases step
    exact .drained results state
  case h_11 results cpu todo state =>
    split at step
    · rename_i empty
      cases step
      exact .drainEmpty results cpu todo state empty
    · rename_i rest queued
      cases step
      exact .drainNone results cpu todo rest state queued
    · rename_i delivery rest queued
      cases step
      exact .drain results cpu todo delivery rest state queued
  case h_12 state =>
    cases step
    exact .stopped state
  case h_13 cpu todo state =>
    split at step
    · rename_i empty
      cases step
      exact .stop cpu todo state empty
    · cases step
  case h_14 results cpu todo state =>
    split at step
    · cases step
    · rename_i rest queued
      cases step
      exact .collected results cpu todo rest state queued
    · rename_i delivery rest queued
      cases step
      exact .collect results cpu todo delivery rest state queued
  case h_15 state =>
    cases step
    exact .joined state
  case h_16 cpu todo state =>
    split at step
    · rename_i ended
      cases step
      exact .join cpu todo state (.inl ended)
    · rename_i task ended
      cases step
      exact .join cpu todo state (.inr ⟨task, ended⟩)
    · cases step
  case h_17 => cases step

/-! ### The transition system -/

/-- Who takes the next step, and what the environment answers. -/
inductive Action (Number : Type) where
  | worker (cpu : Cpu) (outcome : Outcome Number)
  | controller (choice : Choice)

def next (config : Config) (loads : String → Option (Value Number)) (system : System Number) :
    Action Number → Option (System Number)
  | .worker cpu outcome =>
    if cpu ∈ config.cpus then workerStep config loads cpu outcome system else none
  | .controller choice => controllerStep config choice system

/-- The state in which `_RunSchedulingLoop` starts: the worker threads have just been started. -/
def System.start : System Number where
  lock := fun _ => none
  inUseAsExtraWorker := fun _ => false
  commandQ := fun _ => none
  resultQ := fun _ => []
  affinityMask := fun _ => none
  worker := fun _ => .starting
  controller := .tick
  nextRunId := 0
  created := 0
  accepted := []
  rejected := []
  posted := fun _ => []
  returned := fun _ => []
  leaked := []

/-- Any thread takes a step. -/
def Step (config : Config) (loads : String → Option (Value Number))
    (before after : System Number) : Prop :=
  ∃ action, next config loads before action = some after

def Reachable (config : Config) (loads : String → Option (Value Number)) :
    System Number → Prop :=
  Relation.ReflTransGen (Step config loads) System.start

/-- A list of steps, for running the system on a given schedule. -/
def runActions (config : Config) (loads : String → Option (Value Number)) :
    List (Action Number) → System Number → Option (System Number)
  | [], system => some system
  | action :: rest, system => (next config loads system action).bind (runActions config loads rest)

variable {config : Config} {loads : String → Option (Value Number)} {before after : System Number}

/-- A step is a step of one of the workers or of the controller. -/
theorem Step.cases (step : Step config loads before after) :
    (∃ cpu ∈ config.cpus, WorkerMove config loads cpu before after) ∨
      ControllerMove config before after := by
  obtain ⟨action, taken⟩ := step
  cases action with
  | worker cpu outcome =>
    rw [next] at taken
    split at taken
    · rename_i member
      exact .inl ⟨cpu, member, workerStep_move taken⟩
    · cases taken
  | controller choice => exact .inr (controllerStep_move taken)

theorem reachable_runActions {actions : List (Action Number)} {system final : System Number}
    (reachable : Reachable config loads system)
    (run : runActions config loads actions system = some final) :
    Reachable config loads final := by
  induction actions generalizing system with
  | nil =>
    cases run
    exact reachable
  | cons action rest inductionHypothesis =>
    obtain ⟨middle, step, run⟩ := Option.bind_eq_some_iff.mp run
    exact inductionHypothesis (reachable.tail ⟨action, step⟩) run

/-- What is observed at the end of a schedule is observed in a reachable state. -/
theorem reachable_of_observed {actions : List (Action Number)} {observe : System Number → Bool}
    (observed : (runActions config loads actions System.start).any observe = true) :
    ∃ system, Reachable config loads system ∧ observe system = true := by
  obtain ⟨system, run, seen⟩ := (Option.any_eq_true _ _).mp observed
  exact ⟨system, reachable_runActions .refl run, seen⟩

end Fleetbench.Parallel
