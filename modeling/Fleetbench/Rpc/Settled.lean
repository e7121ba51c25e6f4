/-
This file is about how a run of the RPC benchmark settles. One invariant
balances what the benchmark library has granted against the RPCs that were sent,
what was sent against what the server and the network still have, and what the
client saw complete against its counters. When `Wait` of the client returns,
nothing of it is left anywhere: exactly the granted RPCs were sent and all of
them came back, so that the shutdown of the server cuts off none.
-/

import Fleetbench.Rpc.Inflight
import Fleetbench.Rpc.Session
import Mathlib.Data.List.Perm.Basic

namespace Fleetbench.Rpc

open Library

/-! ### Weights of RPCs by their stage -/

/-- The stream will ask `keep_running_` again. -/
def Stage.asksLater : Stage → Nat
  | .outstanding | .delaying | .sending => 1
  | .marking | .decrementing | .unlocking | .returning => 0

/-- The callback has got a yes and not sent its RPC. -/
def Stage.sendsNext : Stage → Nat
  | .sending => 1
  | .outstanding | .delaying | .marking | .decrementing | .unlocking | .returning => 0

def staged (weight : Stage → Nat) (rpcs : List GRPCClientRPC) : Nat :=
  (rpcs.map fun rpc => weight rpc.stage).sum

section Staged

variable (weight : Stage → Nat)

theorem staged_append (first second : List GRPCClientRPC) :
    staged weight (first ++ second) = staged weight first + staged weight second := by
  rw [staged, List.map_append, List.sum_append]
  rfl

theorem staged_cons (rpc : GRPCClientRPC) (rpcs : List GRPCClientRPC) :
    staged weight (rpc :: rpcs) = weight rpc.stage + staged weight rpcs :=
  List.sum_cons

variable {weight} in
theorem staged_eq_zero {rpcs : List GRPCClientRPC}
    (weightless : ∀ rpc ∈ rpcs, weight rpc.stage = 0) : staged weight rpcs = 0 := by
  refine List.sum_eq_zero fun value member => ?_
  obtain ⟨rpc, inside, rfl⟩ := List.mem_map.mp member
  exact weightless rpc inside

variable {client : GRPCClient} {i : Nat} {rpc : GRPCClientRPC}

theorem staged_advance (found : client.rpcs[i]? = some rpc) (stage : Stage) :
    staged weight (client.advance i rpc stage).rpcs + weight rpc.stage =
      staged weight client.rpcs + weight stage := by
  obtain ⟨front, back, split, set, -⟩ := exists_split found
  rw [GRPCClient.advance, set, split, staged_append, staged_append, staged_cons, staged_cons]
  show _ + (weight stage + _) + _ = _
  omega

theorem staged_eraseIdx (found : client.rpcs[i]? = some rpc) :
    staged weight (client.rpcs.eraseIdx i) + weight rpc.stage = staged weight client.rpcs := by
  obtain ⟨front, back, split, -, erased⟩ := exists_split found
  rw [erased, split, staged_append, staged_append, staged_cons]
  omega

end Staged

def outstandingStreams (rpcs : List GRPCClientRPC) : List Nat :=
  (rpcs.filter fun rpc => rpc.stage = .outstanding).map GRPCClientRPC.stream

theorem outstandingStreams_append (first second : List GRPCClientRPC) :
    outstandingStreams (first ++ second) =
      outstandingStreams first ++ outstandingStreams second := by
  rw [outstandingStreams, List.filter_append, List.map_append]
  rfl

theorem outstandingStreams_cons_of_ne {rpc : GRPCClientRPC} (other : rpc.stage ≠ .outstanding)
    (rpcs : List GRPCClientRPC) : outstandingStreams (rpc :: rpcs) = outstandingStreams rpcs := by
  rw [outstandingStreams, List.filter_cons_of_neg (by simp [other])]
  rfl

theorem outstandingStreams_cons {rpc : GRPCClientRPC} (waits : rpc.stage = .outstanding)
    (rpcs : List GRPCClientRPC) :
    outstandingStreams (rpc :: rpcs) = rpc.stream :: outstandingStreams rpcs := by
  rw [outstandingStreams, List.filter_cons_of_pos (by simp [waits])]
  rfl

section Outstanding

variable {client : GRPCClient} {i : Nat} {rpc : GRPCClientRPC}

/-- A callback between two stages behind the completion. -/
theorem outstandingStreams_advance (found : client.rpcs[i]? = some rpc)
    (before : rpc.stage ≠ .outstanding) {stage : Stage} (after : stage ≠ .outstanding) :
    outstandingStreams (client.advance i rpc stage).rpcs = outstandingStreams client.rpcs := by
  obtain ⟨front, back, split, set, -⟩ := exists_split found
  have after' : ({ rpc with stage := stage } : GRPCClientRPC).stage ≠ .outstanding := after
  rw [GRPCClient.advance, set, split, outstandingStreams_append, outstandingStreams_append,
    outstandingStreams_cons_of_ne before, outstandingStreams_cons_of_ne after']

theorem outstandingStreams_complete (found : client.rpcs[i]? = some rpc)
    (waits : rpc.stage = .outstanding) :
    (outstandingStreams client.rpcs).Perm
      (rpc.stream :: outstandingStreams (client.advance i rpc .delaying).rpcs) := by
  obtain ⟨front, back, split, set, -⟩ := exists_split found
  have after : ({ rpc with stage := .delaying } : GRPCClientRPC).stage ≠ .outstanding := nofun
  rw [GRPCClient.advance, set, split, outstandingStreams_append, outstandingStreams_append,
    outstandingStreams_cons waits, outstandingStreams_cons_of_ne after]
  exact List.perm_middle

theorem outstandingStreams_eraseIdx (found : client.rpcs[i]? = some rpc)
    (other : rpc.stage ≠ .outstanding) :
    outstandingStreams (client.rpcs.eraseIdx i) = outstandingStreams client.rpcs := by
  obtain ⟨front, back, split, -, erased⟩ := exists_split found
  rw [erased, split, outstandingStreams_append, outstandingStreams_append,
    outstandingStreams_cons_of_ne other]

end Outstanding

/-! ### What a step of the client does to the balances -/

/-- A visit that was granted but has not sent its RPC. -/
def Main.pending : Main → Nat
  | .locking _ _ | .sending _ _ => 1
  | _ => 0

namespace GRPCClient

/-- The grants that have not been used yet. -/
def pending (client : GRPCClient) : Nat :=
  client.main.pending + staged Stage.sendsNext client.rpcs

/-- The visits and streams that will still get a no. -/
def questions (client : GRPCClient) : Nat :=
  client.main.todo.length + staged Stage.asksLater client.rpcs

/-- A step uses up one grant, asks one question, or changes no balance. -/
structure Effect (client next : GRPCClient) (asks keepRunning : Bool) (sends : Option Nat) :
    Prop where
  pending : next.pending + sends.isSome.toNat = client.pending + (asks && keepRunning).toNat
  questions : next.questions + (asks && !keepRunning).toNat = client.questions
  sent : next.sent = client.sent + sends.isSome.toNat
  streams : (outstandingStreams next.rpcs).Perm
    (outstandingStreams client.rpcs ++ sends.toList)
  alive : next.rpcs.length ≤ client.rpcs.length + sends.isSome.toNat

variable {client next : GRPCClient} {keepRunning : Bool} {address : Nat}

/-- The mutex, the counter and the marks are no part of the balances. -/
theorem Effect.of_eq {between : GRPCClient} {asks : Bool} {sends : Option Nat}
    (effect : Effect client between asks keepRunning sends) (main : next.main = between.main)
    (rpcs : next.rpcs = between.rpcs) (sent : next.sent = between.sent) :
    Effect client next asks keepRunning sends where
  pending := by
    unfold GRPCClient.pending
    rw [main, rpcs]
    exact effect.pending
  questions := by
    unfold GRPCClient.questions
    rw [main, rpcs]
    exact effect.questions
  sent := sent.trans effect.sent
  streams := rpcs ▸ effect.streams
  alive := rpcs ▸ effect.alive

/-- A step of the main thread that concerns no RPC. -/
theorem effect_main {asks keepRunning : Bool} (rpcs : next.rpcs = client.rpcs)
    (sent : next.sent = client.sent)
    (pending : next.main.pending = client.main.pending + (asks && keepRunning).toNat)
    (questions : next.main.todo.length + (asks && !keepRunning).toNat =
      client.main.todo.length) : Effect client next asks keepRunning none where
  pending := by
    unfold GRPCClient.pending
    rw [rpcs, pending]
    show _ + 0 = _
    omega
  questions := by
    unfold GRPCClient.questions
    rw [rpcs, ← questions]
    omega
  sent := sent
  streams := by
    rw [rpcs]
    exact .of_eq (List.append_nil _).symm
  alive := Nat.le_of_eq (congrArg List.length rpcs)

theorem effect_stepMain (step : client.stepMain keepRunning address = some next) :
    Effect client next (client.asks .main) keepRunning (client.sends .main) := by
  unfold GRPCClient.stepMain at step
  unfold asks sends
  cases main : client.main with
  | looping todo =>
    rw [main] at step
    cases todo with
    | nil =>
      cases step
      exact effect_main rfl rfl (by rw [main]; rfl) (by rw [main]; rfl)
    | cons stub todo =>
      cases step
      cases keepRunning with
      | true => exact effect_main rfl rfl (by rw [main]; rfl) (by rw [main]; rfl)
      | false => exact effect_main rfl rfl (by rw [main]; rfl) (by rw [main]; rfl)
  | locking stub todo =>
    rw [main] at step
    dsimp only at step
    split at step
    · cases step
      exact effect_main rfl rfl (by rw [main]; rfl) (by rw [main]; rfl)
    · cases step
  | sending stub todo =>
    rw [main] at step
    obtain ⟨between, sent, rfl⟩ := Option.map_eq_some_iff.mp step
    obtain ⟨-, -, rfl⟩ := sendOneRPC_eq sent
    refine ⟨?_, ?_, rfl, ?_, Nat.le_of_eq List.length_append⟩
    · unfold GRPCClient.pending
      rw [main, staged_append]
      show 0 + (staged Stage.sendsNext client.rpcs + 0) + 1 =
        1 + staged Stage.sendsNext client.rpcs + 0
      omega
    · unfold GRPCClient.questions
      rw [main, staged_append]
      show todo.length + (staged Stage.asksLater client.rpcs + 1) + 0 = todo.length + 1 + _
      omega
    · rw [outstandingStreams_append]
      rfl
  | waiting =>
    rw [main] at step
    dsimp only at step
    split at step
    · cases step
      exact effect_main rfl rfl (by rw [main]; rfl) (by rw [main]; rfl)
    · cases step
  | counting todo | unlocking todo | constructed | woken | waited =>
    rw [main] at step
    cases step
    exact effect_main rfl rfl (by rw [main]; rfl) (by rw [main]; rfl)

theorem effect_stepCallback {i : Nat}
    (allowed : client.rpcs[i]?.map GRPCClientRPC.stage ≠ some .outstanding)
    (step : client.stepCallback i keepRunning address = some next) :
    Effect client next (client.asks (.callback i)) keepRunning (client.sends (.callback i)) := by
  obtain ⟨rpc, found, step⟩ := Option.bind_eq_some_iff.mp step
  have asksEq : client.asks (.callback i) = decide (rpc.stage = .delaying) := by
    simp only [asks, found, Option.map_some, Option.some.injEq]
  have sendsEq : client.sends (.callback i) =
      if rpc.stage = .sending then some rpc.stream else none := by
    simp only [sends, found, Option.bind_some]
  rw [found] at allowed
  have passive : rpc.stage ≠ .outstanding := fun waits => allowed (congrArg some waits)
  rw [asksEq, sendsEq]
  -- a stage that neither asks nor sends, with its successor
  have quiet : ∀ stage : Stage, stage ≠ .outstanding → rpc.stage.asksLater = stage.asksLater →
      rpc.stage.sendsNext = stage.sendsNext →
        Effect client (client.advance i rpc stage) false keepRunning none := by
    intro stage other asks sends
    have sending := staged_advance Stage.sendsNext found stage
    have asking := staged_advance Stage.asksLater found stage
    refine ⟨?_, ?_, rfl, ?_, Nat.le_of_eq List.length_set⟩
    · show client.main.pending + staged _ (client.advance i rpc stage).rpcs + 0 =
        client.main.pending + staged _ client.rpcs + 0
      omega
    · show client.main.todo.length + staged _ (client.advance i rpc stage).rpcs + 0 =
        client.main.todo.length + staged _ client.rpcs
      omega
    · rw [outstandingStreams_advance found passive other]
      exact .of_eq (List.append_nil _).symm
  cases stage : rpc.stage with
  | outstanding => exact absurd stage passive
  | delaying =>
    rw [stage] at step
    cases step
    have sending := staged_advance Stage.sendsNext found
      (if keepRunning then .sending else .marking)
    have asking := staged_advance Stage.asksLater found
      (if keepRunning then .sending else .marking)
    rw [stage] at sending asking
    refine ⟨?_, ?_, rfl, ?_, Nat.le_of_eq List.length_set⟩
    · show client.main.pending + staged _ (client.advance i rpc _).rpcs + 0 =
        client.main.pending + staged _ client.rpcs + (true && keepRunning).toNat
      cases keepRunning with
      | true =>
        have more : staged _ (client.advance i rpc .sending).rpcs + 0 = _ + 1 := sending
        show _ + staged _ (client.advance i rpc .sending).rpcs + 0 = _ + 1
        omega
      | false =>
        have same : staged _ (client.advance i rpc .marking).rpcs + 0 = _ + 0 := sending
        show _ + staged _ (client.advance i rpc .marking).rpcs + 0 = _ + 0
        omega
    · show client.main.todo.length + staged _ (client.advance i rpc _).rpcs +
        (true && !keepRunning).toNat = client.main.todo.length + staged _ client.rpcs
      cases keepRunning with
      | true =>
        have same : staged _ (client.advance i rpc .sending).rpcs + 1 = _ + 1 := asking
        show _ + staged _ (client.advance i rpc .sending).rpcs + 0 = _
        omega
      | false =>
        have fewer : staged _ (client.advance i rpc .marking).rpcs + 1 = _ + 0 := asking
        show _ + staged _ (client.advance i rpc .marking).rpcs + 1 = _
        omega
    · have after : (if keepRunning then Stage.sending else .marking) ≠ .outstanding := by
        split <;> nofun
      rw [outstandingStreams_advance found passive after]
      exact .of_eq (List.append_nil _).symm
  | sending =>
    rw [stage] at step
    obtain ⟨-, -, rfl⟩ := sendOneRPC_eq step
    have sending := staged_advance Stage.sendsNext found .returning
    have asking := staged_advance Stage.asksLater found .returning
    rw [stage] at sending asking
    refine ⟨?_, ?_, rfl, ?_, ?_⟩
    · show client.main.pending + staged _ ((client.advance i rpc .returning).rpcs ++ _) + 1 =
        client.main.pending + staged _ client.rpcs + 0
      have fewer : staged _ (client.advance i rpc .returning).rpcs + 1 = _ + 0 := sending
      rw [staged_append]
      show _ + (_ + 0) + 1 = _
      omega
    · show client.main.todo.length + staged _ ((client.advance i rpc .returning).rpcs ++ _) + 0 =
        client.main.todo.length + staged _ client.rpcs
      have fewer : staged _ (client.advance i rpc .returning).rpcs + 1 = _ + 0 := asking
      rw [staged_append]
      show _ + (_ + 1) + 0 = _
      omega
    · show (outstandingStreams ((client.advance i rpc .returning).rpcs ++ _)).Perm _
      have after : Stage.returning ≠ .outstanding := nofun
      rw [outstandingStreams_append, outstandingStreams_advance found passive after]
      rfl
    · refine Nat.le_of_eq (List.length_append.trans ?_)
      exact congrArg (· + 1) List.length_set
  | marking =>
    rw [stage] at step
    dsimp only at step
    split at step
    · cases step
      exact (quiet .decrementing nofun (by rw [stage]; rfl) (by rw [stage]; rfl)).of_eq rfl rfl rfl
    · cases step
  | decrementing =>
    rw [stage] at step
    cases step
    exact (quiet .unlocking nofun (by rw [stage]; rfl) (by rw [stage]; rfl)).of_eq rfl rfl rfl
  | unlocking =>
    rw [stage] at step
    cases step
    exact (quiet .returning nofun (by rw [stage]; rfl) (by rw [stage]; rfl)).of_eq rfl rfl rfl
  | returning =>
    rw [stage] at step
    cases step
    have sending := staged_eraseIdx Stage.sendsNext found
    have asking := staged_eraseIdx Stage.asksLater found
    rw [stage] at sending asking
    refine ⟨?_, ?_, rfl, ?_, List.length_eraseIdx_le _ _⟩
    · show client.main.pending + staged _ (client.rpcs.eraseIdx i) + 0 =
        client.main.pending + staged _ client.rpcs + 0
      have same : staged _ (client.rpcs.eraseIdx i) + 0 = _ := sending
      omega
    · show client.main.todo.length + staged _ (client.rpcs.eraseIdx i) + 0 =
        client.main.todo.length + staged _ client.rpcs
      have same : staged _ (client.rpcs.eraseIdx i) + 0 = _ := asking
      omega
    · rw [outstandingStreams_eraseIdx found passive]
      exact .of_eq (List.append_nil _).symm

theorem effect_stepThread {thread : Thread}
    (allowed : ∀ i, thread = .callback i →
      client.rpcs[i]?.map GRPCClientRPC.stage ≠ some .outstanding)
    (step : client.stepThread thread keepRunning address = some next) :
    Effect client next (client.asks thread) keepRunning (client.sends thread) := by
  cases thread with
  | main => exact effect_stepMain step
  | callback i => exact effect_stepCallback (allowed i rfl) step

end GRPCClient

/-! ### The balances of a run -/

namespace Session

/-- A client that counts has counted what it saw complete. -/
def ClientCounts (session : Session) : Prop :=
  ∀ counters, session.clientCounters = some counters →
    counters.clientQueries = session.completed % 2 ^ 64 ∧
      counters.clientErrors = session.failed % 2 ^ 64 ∧
      counters.clientLatency = session.completed

/-- A server that counts has counted the calls that returned. -/
def ServerCounts (session : Session) : Prop :=
  ∀ counters, session.serverCounters = some counters →
    counters.serverQueries = session.served % 2 ^ 64

/-- From the shutdown on, nothing is under way to the server. -/
def ShutDown (session : Session) : Prop :=
  session.phase ≠ .serving →
    session.client.main = .waited ∧ session.requests = [] ∧ session.unanswered = []

structure Balanced (limit iterations visits : Nat) (session : Session) : Prop where
  accounted : session.client.Accounted limit
  ends : session.client.Done
  granted : session.granted + session.left = iterations
  used : session.granted = session.client.sent + session.client.pending
  asked : session.refused + session.client.questions = visits
  exhausted : 0 < session.refused → session.left = 0
  carried : (outstandingStreams session.client.rpcs).Perm
    (session.requests ++ session.unanswered ++ session.responses.map Prod.fst)
  sent : session.client.sent =
    session.completed + (outstandingStreams session.client.rpcs).length
  alive : session.client.rpcs.length ≤ session.client.sent
  arrived : session.client.sent =
    session.served + session.handlers.length + session.turnedAway + session.requests.length
  failures : session.failed + session.responses.countP (fun response => !response.2) =
    session.turnedAway + session.lost
  clientCounts : session.ClientCounts
  serverCounts : session.ServerCounts
  shutDown : session.ShutDown
  ended : session.phase = .done → session.handlers = []
  uncut : session.cut = 0

variable {limit iterations visits : Nat} {session next : Session}

/-- Behind `Wait` no RPC is anywhere. -/
theorem Balanced.settled (balanced : session.Balanced limit iterations visits)
    (waited : session.client.main = .woken ∨ session.client.main = .waited) :
    outstandingStreams session.client.rpcs = [] ∧ session.client.pending = 0 ∧
      session.client.questions = 0 ∧ session.requests = [] ∧ session.unanswered = [] ∧
      session.responses = [] := by
  have quiet := balanced.ends waited
  have none (weight : Stage → Nat) (unlocking : weight .unlocking = 0)
      (returning : weight .returning = 0) : staged weight session.client.rpcs = 0 := by
    refine staged_eq_zero fun rpc member => ?_
    rcases quiet.silent rpc member with stage | stage
    · rw [stage, unlocking]
    · rw [stage, returning]
  have streams : outstandingStreams session.client.rpcs = [] := by
    rw [outstandingStreams, List.map_eq_nil_iff, List.filter_eq_nil_iff]
    intro rpc member waits
    rcases quiet.silent rpc member with stage | stage <;>
      cases stage.symm.trans (of_decide_eq_true waits)
  have carried := balanced.carried
  rw [streams, List.nil_perm, List.append_eq_nil_iff, List.append_eq_nil_iff,
    List.map_eq_nil_iff] at carried
  obtain ⟨⟨requests, unanswered⟩, responses⟩ := carried
  refine ⟨streams, ?_, ?_, requests, unanswered, responses⟩
  · unfold GRPCClient.pending
    rw [none _ rfl rfl]
    rcases waited with main | main <;> rw [main] <;> rfl
  · unfold GRPCClient.questions
    rw [none _ rfl rfl]
    rcases waited with main | main <;> rw [main] <;> rfl

theorem balanced_start (opts : GRPCClientOptions) (iterations : Nat)
    {clientCounters serverCounters : Option RPCCounters}
    (clientZero : ∀ counters, clientCounters = some counters → counters = {})
    (serverZero : ∀ counters, serverCounters = some counters → counters = {}) :
    (start opts iterations clientCounters serverCounters).Balanced opts.maxOutstandingRpcs.toNat
      iterations opts.visits.length where
  accounted := GRPCClient.accounted_start opts
  ends := GRPCClient.done_reachable .refl
  granted := Nat.zero_add _
  used := rfl
  asked := Nat.zero_add _
  exhausted := nofun
  carried := .nil
  sent := rfl
  alive := Nat.le_refl 0
  arrived := rfl
  failures := rfl
  clientCounts counters found := by
    rw [clientZero counters found]
    exact ⟨rfl, rfl, rfl⟩
  serverCounts counters found := by
    rw [serverZero counters found]
    rfl
  shutDown serving := absurd rfl serving
  ended := nofun
  uncut := rfl

/-- What the library answers in a step of the client. -/
theorem stepClient_answers {thread : GRPCClient.Thread} {address : Nat}
    (step : session.stepClient thread address = some next) :
    next.granted = session.granted +
        (session.client.asks thread && decide (0 < session.left)).toNat ∧
      next.refused = session.refused +
        (session.client.asks thread && !decide (0 < session.left)).toNat ∧
      next.left + (session.client.asks thread && decide (0 < session.left)).toNat = session.left ∧
      ((session.client.asks thread && !decide (0 < session.left)).toNat = 0 ∨
        session.left = 0) := by
  obtain ⟨client, _, step⟩ := Option.bind_eq_some_iff.mp step
  cases step
  cases session.client.asks thread with
  | false => exact ⟨rfl, rfl, rfl, .inl rfl⟩
  | true =>
    rcases Nat.eq_zero_or_pos session.left with exhausted | granted
    · simp [exhausted]
    · have some_ : session.left ≠ 0 := Nat.ne_of_gt granted
      simp [granted, some_]
      omega

theorem stepClient_other {thread : GRPCClient.Thread} {address : Nat}
    (step : session.stepClient thread address = some next) :
    next.requests = session.requests ++ (session.client.sends thread).toList ∧
      next = { session with
        client := next.client, left := next.left, granted := next.granted
        refused := next.refused, requests := next.requests } := by
  obtain ⟨client, _, step⟩ := Option.bind_eq_some_iff.mp step
  cases step
  exact ⟨rfl, rfl⟩

theorem Balanced.stepClient (balanced : session.Balanced limit iterations visits)
    {thread : GRPCClient.Thread} {address : Nat}
    (allowed : (Action.client thread address).allowed session)
    (step : session.stepClient thread address = some next) :
    next.Balanced limit iterations visits := by
  obtain ⟨grants, refusals, lefts, no⟩ := stepClient_answers step
  obtain ⟨requests, same⟩ := stepClient_other step
  obtain ⟨client, taken, step⟩ := Option.bind_eq_some_iff.mp step
  have clientEq : next.client = client := by cases step; rfl
  clear step
  subst clientEq
  have clientStep : GRPCClient.Step session.client next.client := ⟨thread, _, address, taken⟩
  obtain ⟨pending, questions, sent, streams, alive⟩ :=
    GRPCClient.effect_stepThread (fun i same => by subst same; exact allowed) taken
  have length := streams.length_eq
  rw [List.length_append] at length
  have one : (session.client.sends thread).toList.length =
      (session.client.sends thread).isSome.toNat := by
    cases session.client.sends thread <;> rfl
  have granted := balanced.granted
  have used := balanced.used
  have asked := balanced.asked
  have exhausted := balanced.exhausted
  have sentBefore := balanced.sent
  have arrived := balanced.arrived
  rw [same]
  refine { balanced with
    accounted := balanced.accounted.step clientStep
    ends := GRPCClient.done_step balanced.accounted balanced.ends clientStep
    granted := ?_
    used := ?_
    asked := ?_
    exhausted := ?_
    carried := ?_
    sent := ?_
    alive := ?_
    arrived := ?_
    shutDown := ?_ }
  · show next.granted + next.left = iterations
    omega
  · show next.granted = next.client.sent + next.client.pending
    omega
  · show next.refused + next.client.questions = visits
    omega
  · show 0 < next.refused → next.left = 0
    intro refused
    rcases no with none | noneLeft
    · have before := exhausted (by omega)
      omega
    · omega
  · show (outstandingStreams next.client.rpcs).Perm
      (next.requests ++ session.unanswered ++ session.responses.map Prod.fst)
    rw [requests, List.append_assoc, List.append_assoc]
    refine (streams.trans (balanced.carried.append_right _)).trans ?_
    rw [List.append_assoc, List.append_assoc]
    refine List.Perm.append_left _ ?_
    rw [← List.append_assoc]
    exact List.perm_append_comm
  · show next.client.sent = session.completed + (outstandingStreams next.client.rpcs).length
    omega
  · show next.client.rpcs.length ≤ next.client.sent
    have before := balanced.alive
    omega
  · show next.client.sent = session.served + session.handlers.length + session.turnedAway +
      next.requests.length
    rw [requests, List.length_append]
    omega
  · show session.phase ≠ .serving → next.client.main = .waited ∧ next.requests = [] ∧
      session.unanswered = []
    intro ended
    obtain ⟨waited, noRequests, noHandlers⟩ := balanced.shutDown ended
    obtain ⟨quiet, sameSent⟩ := (balanced.ends (.inr waited)).step clientStep
    have sendsNone : (session.client.sends thread).toList = [] :=
      List.eq_nil_of_length_eq_zero (by omega)
    refine ⟨?_, by rw [requests, noRequests, sendsNone]; rfl, noHandlers⟩
    cases thread with
    | main => exact absurd waited allowed
    | callback i => exact (GRPCClient.stepCallback_main taken).trans waited

/-! ### Steps of the others -/

theorem perm_eraseIdx {Value : Type} {values : List Value} {k : Nat} {value : Value}
    (found : values[k]? = some value) : values.Perm (value :: values.eraseIdx k) := by
  obtain ⟨inside, rfl⟩ := List.getElem?_eq_some_iff.mp found
  exact (List.getElem_cons_eraseIdx_perm inside).symm

def unansweredStreams (handlers : List Handler) : List Nat :=
  (handlers.filter fun handler => handler.stage = .delaying).map Handler.stream

theorem perm_unansweredStreams {handlers others : List Handler} (same : handlers.Perm others) :
    (unansweredStreams handlers).Perm (unansweredStreams others) :=
  (same.filter _).map _

theorem Balanced.complete (balanced : session.Balanced limit iterations visits) {i k : Nat}
    (step : session.complete i k = some next) : next.Balanced limit iterations visits := by
  simp only [Session.complete, Option.bind_eq_bind, Option.bind_eq_some_iff, Option.pure_def,
    Option.some.injEq] at step
  obtain ⟨rpc, found, ⟨stream, isOk⟩, answered, _, matches_, rfl⟩ := step
  obtain ⟨waits, rfl⟩ := (Option.guard_eq_some' _).mp matches_
  have taken : session.client.stepThread (.callback i) true 0 =
      some (session.client.advance i rpc .delaying) := by
    simp only [GRPCClient.stepThread, GRPCClient.stepCallback, found, Option.bind_some, waits]
  have clientStep : GRPCClient.Step session.client (session.client.advance i rpc .delaying) :=
    ⟨_, _, _, taken⟩
  have streams := outstandingStreams_complete found waits
  have length := streams.length_eq
  have erased := perm_eraseIdx answered
  have sending := staged_advance Stage.sendsNext found .delaying
  have asking := staged_advance Stage.asksLater found .delaying
  have sentBefore := balanced.sent
  have failures := balanced.failures
  rw [erased.countP_eq, List.countP_cons] at failures
  rw [waits] at sending asking
  rw [List.length_cons] at length
  have pending : (session.client.advance i rpc .delaying).pending = session.client.pending := by
    unfold GRPCClient.pending
    exact congrArg (session.client.main.pending + ·) sending
  have questions : (session.client.advance i rpc .delaying).questions =
      session.client.questions := by
    unfold GRPCClient.questions
    exact congrArg (session.client.main.todo.length + ·) (Nat.add_right_cancel asking)
  refine { balanced with
    accounted := balanced.accounted.step clientStep
    ends := GRPCClient.done_step balanced.accounted balanced.ends clientStep
    used := balanced.used.trans (congrArg (session.client.sent + ·) pending.symm)
    asked := (congrArg (session.refused + ·) questions).trans balanced.asked
    carried := ?_
    sent := ?_
    alive := List.length_set.trans_le balanced.alive
    failures := ?_
    clientCounts := ?_ }
  · have carried := streams.symm.trans balanced.carried
    have responses := (erased.map Prod.fst).append_left (session.requests ++ session.unanswered)
    exact ((carried.trans responses).trans List.perm_middle).cons_inv
  · show session.client.sent = session.completed + 1 +
      (outstandingStreams (session.client.advance i rpc .delaying).rpcs).length
    omega
  · show (if isOk = true then session.failed else session.failed + 1) +
      (session.responses.eraseIdx k).countP _ = session.turnedAway + session.lost
    cases isOk with
    | true => simpa using failures
    | false =>
      simp only [Bool.not_false, if_true] at failures
      simp only [Bool.false_eq_true, if_false]
      omega
  · intro counters counts
    obtain ⟨before, at_, rfl⟩ := Option.map_eq_some_iff.mp counts
    obtain ⟨queries, errors, latency⟩ := balanced.clientCounts before at_
    refine ⟨?_, ?_, congrArg (· + 1) latency⟩
    · show (before.clientQueries + 1) % 2 ^ 64 = (session.completed + 1) % 2 ^ 64
      rw [queries, Nat.mod_add_mod]
    · show (if isOk = true then before.clientErrors else (before.clientErrors + 1) % 2 ^ 64) =
        (if isOk = true then session.failed else session.failed + 1) % 2 ^ 64
      rw [errors]
      cases isOk with
      | true => rfl
      | false => exact Nat.mod_add_mod _ _ _

theorem Balanced.accept (balanced : session.Balanced limit iterations visits) {k : Nat}
    (step : session.accept k = some next) : next.Balanced limit iterations visits := by
  simp only [Session.accept, Option.bind_eq_bind, Option.bind_eq_some_iff, Option.pure_def,
    Option.some.injEq] at step
  obtain ⟨_, serving, stream, found, rfl⟩ := step
  have phase := (Option.guard_eq_some' _).mp serving
  have erased := perm_eraseIdx found
  have length := erased.length_eq
  have arrived := balanced.arrived
  rw [List.length_cons] at length
  refine { balanced with
    carried := balanced.carried.trans ?_
    arrived := ?_
    shutDown := fun ended => absurd phase ended
    ended := fun ended => (nomatch phase.symm.trans ended) }
  · refine List.Perm.append_right _ ?_
    show (session.requests ++ session.unanswered).Perm (session.requests.eraseIdx k ++
      unansweredStreams (session.handlers ++ [⟨stream, .delaying⟩]))
    rw [unansweredStreams, List.filter_append, List.map_append]
    refine (erased.append_right _).trans ?_
    rw [← List.append_assoc]
    show ([stream] ++ (session.requests.eraseIdx k ++ session.unanswered)).Perm _
    exact List.perm_append_comm
  · show session.client.sent = session.served + (session.handlers ++ [_]).length +
      session.turnedAway + (session.requests.eraseIdx k).length
    rw [List.length_append, List.length_singleton]
    omega

theorem perm_set {Value : Type} {values : List Value} {k : Nat} {value : Value}
    (found : values[k]? = some value) (other : Value) :
    (values.set k other).Perm (other :: values.eraseIdx k) :=
  List.set_perm_cons_eraseIdx (List.getElem?_eq_some_iff.mp found).1 other

theorem Balanced.stepHandler (balanced : session.Balanced limit iterations visits) {k : Nat}
    (step : session.stepHandler k = some next) : next.Balanced limit iterations visits := by
  obtain ⟨⟨stream, stage⟩, found, step⟩ := Option.bind_eq_some_iff.mp step
  have erased := perm_eraseIdx found
  have before := perm_unansweredStreams erased
  have arrived := balanced.arrived
  cases stage with
  | delaying =>
    cases step
    have after := perm_unansweredStreams (perm_set found ⟨stream, .counting⟩)
    have answered : session.unanswered.Perm (stream :: unansweredStreams
        (session.handlers.set k ⟨stream, .counting⟩)) := before.trans (after.cons stream).symm
    refine { balanced with
      carried := balanced.carried.trans ?_
      arrived := ?_
      failures := ?_
      shutDown := fun ended => ?_
      ended := fun ended => ?_ }
    · show (session.requests ++ session.unanswered ++ session.responses.map Prod.fst).Perm
        (session.requests ++ unansweredStreams (session.handlers.set k ⟨stream, .counting⟩) ++
          (session.responses ++ [(stream, true)]).map Prod.fst)
      rw [List.map_append, List.append_assoc, List.append_assoc]
      refine List.Perm.append_left _ ((answered.append_right _).trans ?_)
      rw [← List.append_assoc]
      show ([stream] ++ (_ ++ session.responses.map Prod.fst)).Perm _
      exact List.perm_append_comm
    · show session.client.sent = session.served + (session.handlers.set k _).length +
        session.turnedAway + session.requests.length
      rw [List.length_set]
      exact arrived
    · show session.failed + (session.responses ++ [(stream, true)]).countP _ = _
      rw [List.countP_append]
      exact balanced.failures
    · obtain ⟨-, -, noneLeft⟩ := balanced.shutDown ended
      rw [noneLeft] at answered
      exact absurd answered.length_eq (by simp)
    · rw [balanced.ended ended] at found
      cases found
  | counting =>
    cases step
    have length := erased.length_eq
    rw [List.length_cons] at length
    refine { balanced with
      carried := balanced.carried.trans ?_
      arrived := ?_
      serverCounts := ?_
      shutDown := fun ended => ?_
      ended := fun ended => ?_ }
    · exact (before.append_left _).append_right _
    · show session.client.sent = session.served + 1 + (session.handlers.eraseIdx k).length +
        session.turnedAway + session.requests.length
      omega
    · intro counters counts
      obtain ⟨older, at_, rfl⟩ := Option.map_eq_some_iff.mp counts
      show (older.serverQueries + 1) % 2 ^ 64 = (session.served + 1) % 2 ^ 64
      rw [balanced.serverCounts older at_, Nat.mod_add_mod]
    · obtain ⟨waited, requests, noneLeft⟩ := balanced.shutDown ended
      refine ⟨waited, requests, ?_⟩
      have same : session.unanswered.Perm
        (unansweredStreams (session.handlers.eraseIdx k)) := before
      rw [noneLeft] at same
      exact List.nil_perm.mp same
    · rw [balanced.ended ended] at found
      cases found

theorem Balanced.turnAway (balanced : session.Balanced limit iterations visits) {k : Nat}
    (step : session.turnAway k = some next) : next.Balanced limit iterations visits := by
  obtain ⟨stream, found, step⟩ := Option.bind_eq_some_iff.mp step
  cases step
  have erased := perm_eraseIdx found
  have length := erased.length_eq
  have arrived := balanced.arrived
  have failures := balanced.failures
  rw [List.length_cons] at length
  refine { balanced with
    carried := balanced.carried.trans ?_
    arrived := ?_
    failures := ?_
    shutDown := fun ended => ?_ }
  · show (session.requests ++ session.unanswered ++ session.responses.map Prod.fst).Perm
      (session.requests.eraseIdx k ++ session.unanswered ++
        (session.responses ++ [(stream, false)]).map Prod.fst)
    rw [List.map_append, ← List.append_assoc]
    refine (((erased.append_right _).append_right _)).trans ?_
    show ([stream] ++ (_ ++ session.responses.map Prod.fst)).Perm _
    exact List.perm_append_comm
  · show session.client.sent = session.served + session.handlers.length +
      (session.turnedAway + 1) + (session.requests.eraseIdx k).length
    omega
  · show session.failed + (session.responses ++ [(stream, false)]).countP _ =
      session.turnedAway + 1 + session.lost
    rw [List.countP_append]
    show session.failed + (_ + 1) = _
    omega
  · obtain ⟨-, requests, -⟩ := balanced.shutDown ended
    rw [requests] at found
    cases found

theorem Balanced.lose (balanced : session.Balanced limit iterations visits) {k : Nat}
    (step : session.lose k = some next) : next.Balanced limit iterations visits := by
  simp only [Session.lose, Option.bind_eq_bind, Option.bind_eq_some_iff, Option.pure_def,
    Option.some.injEq] at step
  obtain ⟨⟨stream, isOk⟩, found, _, good, rfl⟩ := step
  have same : isOk = true := (Option.guard_eq_some' _).mp good
  subst same
  have erased := perm_eraseIdx found
  have changed := perm_set found (stream, false)
  have failures := balanced.failures
  rw [erased.countP_eq, List.countP_cons] at failures
  refine { balanced with
    carried := balanced.carried.trans ?_
    failures := ?_ }
  · exact ((erased.map Prod.fst).trans (changed.map Prod.fst).symm).append_left _
  · show session.failed + (session.responses.set k (stream, false)).countP _ =
      session.turnedAway + (session.lost + 1)
    rw [changed.countP_eq, List.countP_cons]
    simp only [Bool.not_true, Bool.not_false, Bool.false_eq_true, if_true, if_false] at failures ⊢
    omega

/-- The shutdown finds nothing to cut off. -/
theorem Balanced.shutdown (balanced : session.Balanced limit iterations visits)
    (step : session.shutdown = some next) : next.Balanced limit iterations visits := by
  obtain ⟨_, allowed, step⟩ := Option.bind_eq_some_iff.mp step
  obtain ⟨waited, serving⟩ := (Option.guard_eq_some' _).mp allowed
  cases step
  obtain ⟨-, -, -, requests, unanswered, responses⟩ := balanced.settled (.inr waited)
  have noneLeft : unansweredStreams (session.handlers.map fun handler =>
      { handler with stage := .counting }) = [] := by
    rw [unansweredStreams, List.map_eq_nil_iff, List.filter_eq_nil_iff]
    intro handler member
    obtain ⟨older, -, rfl⟩ := List.mem_map.mp member
    exact Bool.false_ne_true
  have cutOff : (session.requests ++ session.unanswered).map (fun stream => (stream, false)) =
      [] := by
    rw [requests, unanswered]
    rfl
  refine { balanced with
    carried := ?_
    arrived := ?_
    failures := ?_
    shutDown := fun _ => ⟨waited, rfl, noneLeft⟩
    ended := nofun
    uncut := ?_ }
  · show (outstandingStreams session.client.rpcs).Perm ([] ++ unansweredStreams _ ++
      (session.responses ++ (session.requests ++ session.unanswered).map _).map Prod.fst)
    rw [noneLeft, cutOff, List.append_nil, List.append_nil]
    have carried := balanced.carried
    rw [requests, unanswered] at carried
    exact carried
  · show session.client.sent = session.served + (session.handlers.map _).length +
      session.turnedAway + 0
    rw [List.length_map]
    have arrived := balanced.arrived
    rw [requests] at arrived
    exact arrived
  · show session.failed +
      (session.responses ++ (session.requests ++ session.unanswered).map _).countP _ = _
    rw [cutOff, List.append_nil]
    exact balanced.failures
  · show session.cut + session.requests.length + session.unanswered.length = 0
    rw [balanced.uncut, requests, unanswered]
    rfl

theorem Balanced.serverWait (balanced : session.Balanced limit iterations visits)
    (step : session.serverWait = some next) : next.Balanced limit iterations visits := by
  obtain ⟨_, allowed, step⟩ := Option.bind_eq_some_iff.mp step
  obtain ⟨ended, noneLeft⟩ := (Option.guard_eq_some' _).mp allowed
  cases step
  exact { balanced with
    shutDown := fun _ => balanced.shutDown (by rw [ended]; nofun)
    ended := fun _ => noneLeft }

/-! ### Runs -/

theorem Balanced.step (balanced : session.Balanced limit iterations visits)
    (step : Step session next) : next.Balanced limit iterations visits := by
  obtain ⟨action, allowed, step⟩ := step
  cases action with
  | client thread address => exact balanced.stepClient allowed step
  | complete i k => exact balanced.complete step
  | accept k => exact balanced.accept step
  | handler k => exact balanced.stepHandler step
  | turnAway k => exact balanced.turnAway step
  | lose k => exact balanced.lose step
  | shutdown => exact balanced.shutdown step
  | serverWait => exact balanced.serverWait step

theorem balanced_reachable {opts : GRPCClientOptions}
    {clientCounters serverCounters : Option RPCCounters}
    (clientZero : ∀ counters, clientCounters = some counters → counters = {})
    (serverZero : ∀ counters, serverCounters = some counters → counters = {})
    (run : Relation.ReflTransGen Step (start opts iterations clientCounters serverCounters)
      session) :
    session.Balanced opts.maxOutstandingRpcs.toNat iterations opts.visits.length :=
  reachable_invariant (balanced_start opts iterations clientZero serverZero)
    (fun _ _ => Balanced.step) run

/-- A run whose client has waited: exactly the granted RPCs were sent and all of them came back, the
library has said no once for every stream, and nothing is under way that a shutdown would cut
off. -/
structure Settled (iterations visits : Nat) (session : Session) : Prop where
  granted : session.granted = iterations
  sent : session.client.sent = iterations
  completed : session.completed = iterations
  refused : session.refused = visits
  failures : session.failed = session.turnedAway + session.lost
  clientCounts : session.ClientCounts
  requests : session.requests = []
  unanswered : session.unanswered = []
  responses : session.responses = []
  uncut : session.cut = 0
  served : session.phase = .done →
    session.served + session.turnedAway = iterations ∧ session.ServerCounts

theorem Balanced.settled_of_waited (balanced : session.Balanced limit iterations visits)
    (connected : 0 < visits) (waited : session.client.main = .waited) :
    session.Settled iterations visits := by
  obtain ⟨streams, pending, questions, requests, unanswered, responses⟩ :=
    balanced.settled (.inr waited)
  have refused : session.refused = visits := by
    have asked := balanced.asked
    rwa [questions] at asked
  have granted := balanced.granted
  rw [balanced.exhausted (refused ▸ connected)] at granted
  have used := balanced.used
  rw [pending] at used
  have sent : session.client.sent = iterations := used.symm.trans granted
  have completed := balanced.sent
  rw [streams] at completed
  have failures := balanced.failures
  rw [responses] at failures
  refine ⟨granted, sent, completed.symm.trans sent, refused, failures, balanced.clientCounts,
    requests, unanswered, responses, balanced.uncut, fun ended => ⟨?_, balanced.serverCounts⟩⟩
  have arrived := balanced.arrived
  rw [balanced.ended ended, requests, sent] at arrived
  exact arrived.symm

/-- When `Wait` of the client returns, in whatever order the parties have stepped, the run is
settled. -/
theorem settled_reachable {opts : GRPCClientOptions} (connected : opts.visits ≠ [])
    {clientCounters serverCounters : Option RPCCounters}
    (clientZero : ∀ counters, clientCounters = some counters → counters = {})
    (serverZero : ∀ counters, serverCounters = some counters → counters = {})
    (run : Relation.ReflTransGen Step (start opts iterations clientCounters serverCounters) session)
    (waited : session.client.main = .waited) : session.Settled iterations opts.visits.length :=
  (balanced_reachable clientZero serverZero run).settled_of_waited
    (List.length_pos_of_ne_nil connected) waited

/-! ### A run of the benchmark -/

/-- The options of `BM_Rpc`. -/
def bmRpcOptions (port : Int) : GRPCClientOptions where
  peers := ["localhost:" ++ toString port]
  connectionsPerPeer := 1
  maxOutstandingRpcs := 1
  skipLoopback := false

theorem visits_bmRpcOptions (port : Int) : (bmRpcOptions port).visits = [0] := by
  have peers : (bmRpcOptions port).connectedPeers = ["localhost:" ++ toString port] := by
    simp [bmRpcOptions, GRPCClientOptions.connectedPeers]
  have stubs : (bmRpcOptions port).stubBufs.length = 1 := by
    rw [GRPCClientOptions.stubBufs, peers]
    rfl
  rw [GRPCClientOptions.visits, stubs]
  rfl

theorem connected_bmRpcOptions (port : Int) : (bmRpcOptions port).visits ≠ [] := by
  rw [visits_bmRpcOptions]
  exact List.cons_ne_nil _ _

instance Action.decidableAllowed (session : Session) :
    (action : Action) → Decidable (action.allowed session)
  | .client .main _ => inferInstanceAs (Decidable (_ ≠ _))
  | .client (.callback _) _ => inferInstanceAs (Decidable (_ ≠ _))
  | .complete _ _ | .accept _ | .handler _ | .turnAway _ | .lose _ | .shutdown | .serverWait =>
    inferInstanceAs (Decidable True)

/-- Actions one after the other. -/
def runActions : List Action → Session → Option Session
  | [], session => some session
  | action :: rest, session =>
    if action.allowed session then (session.perform action).bind (runActions rest) else none

theorem steps_of_runActions {actions : List Action} (ran : runActions actions session = some next) :
    Relation.ReflTransGen Step session next := by
  induction actions generalizing session with
  | nil =>
    cases ran
    exact .refl
  | cons action rest inductionHypothesis =>
    unfold runActions at ran
    split at ran
    · rename_i allowed
      obtain ⟨between, step, ran⟩ := Option.bind_eq_some_iff.mp ran
      exact .head ⟨action, allowed, step⟩ (inductionHypothesis ran)
    · cases ran

/-- Two iterations. The first response is lost, and the client waits before the server has counted
the second query. -/
def twoIterations : List Action :=
  [.client .main 0, .client .main 0, .client .main 1, .accept 0, .handler 0, .lose 0,
    .complete 0 0, .handler 0, .client .main 0, .client (.callback 0) 0, .client (.callback 0) 2,
    .client .main 0, .accept 0, .client (.callback 0) 0, .handler 0, .complete 0 0,
    .client .main 0, .client .main 0, .client (.callback 0) 0, .client (.callback 0) 0,
    .client (.callback 0) 0, .client (.callback 0) 0, .client .main 0, .client .main 0]

theorem settled_twoIterations :
    ∃ session,
      Relation.ReflTransGen Step (start (bmRpcOptions 8080) 2 (some {}) (some {})) session ∧
        session.client.main = .waited ∧ session.lost = 1 ∧
          session.Settled 2 (bmRpcOptions 8080).visits.length := by
  have ran : (runActions twoIterations (start (bmRpcOptions 8080) 2 (some {}) (some {}))).map
      (fun session => (session.client.main, session.lost)) = some (.waited, 1) := by
    decide +kernel
  obtain ⟨session, ran, values⟩ := Option.map_eq_some_iff.mp ran
  obtain ⟨waited, lost⟩ := Prod.mk.inj values
  have run := steps_of_runActions ran
  exact ⟨session, run, waited, lost, settled_reachable (connected_bmRpcOptions 8080)
    (fun _ same => (Option.some.inj same).symm) (fun _ same => (Option.some.inj same).symm) run
    waited⟩

end Session

end Fleetbench.Rpc
