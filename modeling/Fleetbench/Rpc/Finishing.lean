/-
This file proves that a run of the RPC benchmark ends in every schedule. A
measure of the iterations that are left, of the stages of all RPCs and of what
the server and the network have falls with every step. And no state before the
end is stuck: whoever waits for the mutex finds its holder able to step, and
`Wait` finds a stream that some party carries on.

The benchmark of the repository is a run with one stream, to which the library
says no exactly once.
-/

import Fleetbench.Rpc.Settled

namespace Fleetbench.Rpc

open Library

/-! ### The measure -/

def Stage.rank : Stage → Nat
  | .returning => 1
  | .unlocking => 2
  | .decrementing => 3
  | .marking => 4
  | .delaying => 5
  | .outstanding => 6
  | .sending => 14

def Main.rank : Main → Nat
  | .waited => 6
  | .woken => 7
  | .waiting => 8
  | .constructed => 9
  | .looping todo => 10 + todo.length
  | .unlocking todo => 11 + todo.length
  | .counting todo => 12 + todo.length
  | .sending _ todo => 24 + todo.length
  | .locking _ todo => 25 + todo.length

def Handler.rank (handler : Handler) : Nat :=
  match handler.stage with
  | .counting => 1
  | .delaying => 4

def responseRank (response : Nat × Bool) : Nat := if response.2 then 2 else 1

def Phase.rank : Phase → Nat
  | .done => 0
  | .shutDown => 1
  | .serving => 2

namespace GRPCClient

def rank (client : GRPCClient) : Nat := client.main.rank + staged Stage.rank client.rpcs

variable {client next : GRPCClient} {keepRunning : Bool} {address : Nat}

/-- A step of the main thread uses up its own rank, that of a grant, or both. -/
theorem rank_stepMain (inside : client.main ≠ .waited)
    (step : client.stepMain keepRunning address = some next) :
    next.rank + 5 * (client.sends .main).isSome.toNat <
      client.rank + 15 * (client.asks .main && keepRunning).toNat := by
  have moved {main : Main} (rpcs : next.rpcs = client.rpcs) (at_ : client.main = main)
      {grant : Nat} (smaller : next.main.rank < main.rank + grant) :
      next.rank < client.rank + grant := by
    unfold rank
    rw [rpcs, at_]
    omega
  unfold GRPCClient.stepMain at step
  unfold asks sends
  cases main : client.main with
  | looping todo =>
    rw [main] at step
    cases todo with
    | nil =>
      cases step
      exact moved rfl main (show 9 < 10 + 0 by decide)
    | cons stub todo =>
      cases step
      cases keepRunning with
      | true =>
        refine moved rfl main ?_
        show 25 + todo.length < 10 + (todo.length + 1) + 15
        omega
      | false =>
        refine moved rfl main ?_
        show 10 + todo.length < 10 + (todo.length + 1) + 0
        omega
  | locking stub todo =>
    rw [main] at step
    dsimp only at step
    split at step
    · cases step
      refine moved rfl main ?_
      show 24 + todo.length < 25 + todo.length
      omega
    · cases step
  | sending stub todo =>
    rw [main] at step
    obtain ⟨between, sent, rfl⟩ := Option.map_eq_some_iff.mp step
    obtain ⟨-, -, rfl⟩ := sendOneRPC_eq sent
    unfold rank
    rw [main, staged_append]
    show 12 + todo.length + (staged Stage.rank client.rpcs + 6) + 5 <
      24 + todo.length + staged Stage.rank client.rpcs
    omega
  | counting todo =>
    rw [main] at step
    cases step
    refine moved rfl main ?_
    show 11 + todo.length < 12 + todo.length
    omega
  | unlocking todo =>
    rw [main] at step
    cases step
    refine moved rfl main ?_
    show 10 + todo.length < 11 + todo.length
    omega
  | waiting =>
    rw [main] at step
    dsimp only at step
    split at step
    · cases step
      exact moved rfl main (show 7 < 8 by decide)
    · cases step
  | constructed =>
    rw [main] at step
    cases step
    exact moved rfl main (show 8 < 9 by decide)
  | woken =>
    rw [main] at step
    cases step
    exact moved rfl main (show 6 < 7 by decide)
  | waited => exact absurd main inside

theorem rank_stepCallback {i : Nat}
    (allowed : client.rpcs[i]?.map GRPCClientRPC.stage ≠ some .outstanding)
    (step : client.stepCallback i keepRunning address = some next) :
    next.rank + 5 * (client.sends (.callback i)).isSome.toNat <
      client.rank + 15 * (client.asks (.callback i) && keepRunning).toNat := by
  obtain ⟨rpc, found, step⟩ := Option.bind_eq_some_iff.mp step
  have asksEq : client.asks (.callback i) = decide (rpc.stage = .delaying) := by
    simp only [asks, found, Option.map_some, Option.some.injEq]
  have sendsEq : client.sends (.callback i) =
      if rpc.stage = .sending then some rpc.stream else none := by
    simp only [sends, found, Option.bind_some]
  rw [found] at allowed
  rw [asksEq, sendsEq]
  have moved {stage : Stage} (main : next.main = client.main)
      (rpcs : next.rpcs = (client.advance i rpc stage).rpcs) {grant : Nat}
      (smaller : stage.rank < rpc.stage.rank + grant) : next.rank < client.rank + grant := by
    have changed := staged_advance Stage.rank found stage
    unfold rank
    rw [main, rpcs]
    omega
  cases stage : rpc.stage with
  | outstanding => exact absurd (congrArg some stage) allowed
  | delaying =>
    rw [stage] at step moved
    cases step
    cases keepRunning with
    | true => exact moved rfl rfl (show 14 < 5 + 15 by decide)
    | false => exact moved rfl rfl (show 4 < 5 by decide)
  | sending =>
    rw [stage] at step
    obtain ⟨-, -, rfl⟩ := sendOneRPC_eq step
    have changed := staged_advance Stage.rank found .returning
    rw [stage] at changed
    have fewer : staged _ (client.advance i rpc .returning).rpcs + 14 = _ + 1 := changed
    unfold rank
    rw [staged_append]
    show client.main.rank + (staged Stage.rank (client.advance i rpc .returning).rpcs + 6) + 5 <
      client.main.rank + staged Stage.rank client.rpcs
    omega
  | marking =>
    rw [stage] at step moved
    dsimp only at step
    split at step
    · cases step
      exact moved rfl rfl (show 3 < 4 by decide)
    · cases step
  | decrementing =>
    rw [stage] at step moved
    dsimp only at step
    generalize (client.inflightRpcsCount + 2 ^ 64 - 1) % 2 ^ 64 = count at step
    cases step
    exact moved rfl rfl (show 2 < 3 by decide)
  | unlocking =>
    rw [stage] at step moved
    cases step
    exact moved rfl rfl (show 1 < 2 by decide)
  | returning =>
    rw [stage] at step
    cases step
    have changed := staged_eraseIdx Stage.rank found
    rw [stage] at changed
    have fewer : staged _ (client.rpcs.eraseIdx i) + 1 = _ := changed
    unfold rank
    show client.main.rank + staged Stage.rank (client.rpcs.eraseIdx i) <
      client.main.rank + staged Stage.rank client.rpcs
    omega

end GRPCClient

namespace Session

def measure (session : Session) : Nat :=
  15 * session.left + session.client.rank + 5 * session.requests.length +
    (session.handlers.map Handler.rank).sum + (session.responses.map responseRank).sum +
    session.phase.rank

variable {limit iterations visits : Nat} {session next : Session}

theorem measure_stepClient {thread : GRPCClient.Thread} {address : Nat}
    (allowed : (Action.client thread address).allowed session)
    (step : session.stepClient thread address = some next) : next.measure < session.measure := by
  obtain ⟨-, -, lefts, -⟩ := stepClient_answers step
  obtain ⟨requests, same⟩ := stepClient_other step
  obtain ⟨client, taken, step⟩ := Option.bind_eq_some_iff.mp step
  have clientEq : next.client = client := by cases step; rfl
  clear step
  subst clientEq
  have ranked : next.client.rank + 5 * (session.client.sends thread).isSome.toNat <
      session.client.rank +
        15 * (session.client.asks thread && decide (0 < session.left)).toNat := by
    cases thread with
    | main => exact GRPCClient.rank_stepMain allowed taken
    | callback i => exact GRPCClient.rank_stepCallback allowed taken
  have one : (session.client.sends thread).toList.length =
      (session.client.sends thread).isSome.toNat := by
    cases session.client.sends thread <;> rfl
  have length := congrArg List.length requests
  rw [List.length_append, one] at length
  rw [same]
  show 15 * next.left + next.client.rank + 5 * next.requests.length +
    (session.handlers.map Handler.rank).sum + (session.responses.map responseRank).sum +
    session.phase.rank < session.measure
  unfold measure
  omega

theorem sum_map_perm {Value : Type} (weight : Value → Nat) {values others : List Value}
    (same : values.Perm others) : (values.map weight).sum = (others.map weight).sum :=
  (same.map weight).sum_eq

theorem measure_complete {i k : Nat} (step : session.complete i k = some next) :
    next.measure < session.measure := by
  simp only [Session.complete, Option.bind_eq_bind, Option.bind_eq_some_iff, Option.pure_def,
    Option.some.injEq] at step
  obtain ⟨rpc, found, ⟨stream, isOk⟩, answered, _, matches_, rfl⟩ := step
  obtain ⟨waits, rfl⟩ := (Option.guard_eq_some' _).mp matches_
  have fewer := sum_map_perm responseRank (perm_eraseIdx answered)
  have advanced := staged_advance Stage.rank found .delaying
  rw [waits] at advanced
  have smaller : staged Stage.rank (session.client.advance i rpc .delaying).rpcs + 6 =
    staged Stage.rank session.client.rpcs + 5 := advanced
  rw [List.map_cons, List.sum_cons] at fewer
  show 15 * session.left + (session.client.main.rank +
      staged Stage.rank (session.client.advance i rpc .delaying).rpcs) +
    5 * session.requests.length + (session.handlers.map Handler.rank).sum +
    ((session.responses.eraseIdx k).map responseRank).sum + session.phase.rank < session.measure
  unfold measure GRPCClient.rank
  omega

theorem measure_accept {k : Nat} (step : session.accept k = some next) :
    next.measure < session.measure := by
  simp only [Session.accept, Option.bind_eq_bind, Option.bind_eq_some_iff, Option.pure_def,
    Option.some.injEq] at step
  obtain ⟨_, -, stream, found, rfl⟩ := step
  have fewer := (perm_eraseIdx found).length_eq
  rw [List.length_cons] at fewer
  unfold measure
  rw [List.map_append, List.sum_append]
  show _ + (_ + (4 + 0)) + _ + _ < _
  dsimp only
  omega

theorem measure_stepHandler {k : Nat} (step : session.stepHandler k = some next) :
    next.measure < session.measure := by
  obtain ⟨⟨stream, stage⟩, found, step⟩ := Option.bind_eq_some_iff.mp step
  have before := sum_map_perm Handler.rank (perm_eraseIdx found)
  rw [List.map_cons, List.sum_cons] at before
  cases stage with
  | delaying =>
    cases step
    have after := sum_map_perm Handler.rank (perm_set found ⟨stream, .counting⟩)
    rw [List.map_cons, List.sum_cons] at after
    have older : (session.handlers.map Handler.rank).sum = 4 + _ := before
    have newer : ((session.handlers.set k ⟨stream, .counting⟩).map Handler.rank).sum = 1 + _ :=
      after
    unfold measure
    rw [List.map_append, List.sum_append]
    show _ + (_ + (2 + 0)) + _ < _
    dsimp only
    omega
  | counting =>
    cases step
    have older : (session.handlers.map Handler.rank).sum = 1 + _ := before
    unfold measure
    dsimp only
    omega

theorem measure_turnAway {k : Nat} (step : session.turnAway k = some next) :
    next.measure < session.measure := by
  obtain ⟨stream, found, step⟩ := Option.bind_eq_some_iff.mp step
  cases step
  have fewer := (perm_eraseIdx found).length_eq
  rw [List.length_cons] at fewer
  unfold measure
  rw [List.map_append, List.sum_append]
  show _ + (_ + (1 + 0)) + _ < _
  dsimp only
  omega

theorem measure_lose {k : Nat} (step : session.lose k = some next) :
    next.measure < session.measure := by
  simp only [Session.lose, Option.bind_eq_bind, Option.bind_eq_some_iff, Option.pure_def,
    Option.some.injEq] at step
  obtain ⟨⟨stream, isOk⟩, found, _, good, rfl⟩ := step
  have same : isOk = true := (Option.guard_eq_some' _).mp good
  subst same
  have before := sum_map_perm responseRank (perm_eraseIdx found)
  have after := sum_map_perm responseRank (perm_set found (stream, false))
  rw [List.map_cons, List.sum_cons] at before after
  have older : (session.responses.map responseRank).sum = 2 + _ := before
  have newer : ((session.responses.set k (stream, false)).map responseRank).sum = 1 + _ := after
  unfold measure
  dsimp only
  omega

/-- The shutdown has nothing to cut off, so that it only moves the phase on. -/
theorem Balanced.measure_shutdown (balanced : session.Balanced limit iterations visits)
    (step : session.shutdown = some next) : next.measure < session.measure := by
  obtain ⟨_, allowed, step⟩ := Option.bind_eq_some_iff.mp step
  obtain ⟨waited, serving⟩ := (Option.guard_eq_some' _).mp allowed
  cases step
  obtain ⟨-, -, -, requests, unanswered, -⟩ := balanced.settled (.inr waited)
  have counting : ∀ handler ∈ session.handlers, 1 = handler.rank := by
    intro handler member
    unfold Handler.rank
    cases stage : handler.stage with
    | counting => rfl
    | delaying =>
      have late : handler.stream ∈ session.unanswered :=
        List.mem_map_of_mem (List.mem_filter.mpr ⟨member, decide_eq_true stage⟩)
      exact absurd late (unanswered ▸ List.not_mem_nil)
  have handlers : ((session.handlers.map fun handler =>
      ({ handler with stage := .counting } : Handler)).map Handler.rank) =
      session.handlers.map Handler.rank := by
    rw [List.map_map]
    exact List.map_congr_left counting
  have responses : session.responses ++ (session.requests ++ session.unanswered).map
      (fun stream => (stream, false)) = session.responses := by
    rw [requests, unanswered]
    exact List.append_nil _
  unfold measure
  dsimp only
  rw [handlers, responses, requests, serving]
  exact Nat.lt_succ_self _

theorem measure_serverWait (step : session.serverWait = some next) :
    next.measure < session.measure := by
  obtain ⟨_, allowed, step⟩ := Option.bind_eq_some_iff.mp step
  obtain ⟨ended, -⟩ := (Option.guard_eq_some' _).mp allowed
  cases step
  unfold measure
  rw [ended]
  exact Nat.lt_succ_self _

theorem Balanced.decreases (balanced : session.Balanced limit iterations visits)
    (step : Step session next) : next.measure < session.measure := by
  obtain ⟨action, allowed, step⟩ := step
  cases action with
  | client thread address => exact measure_stepClient allowed step
  | complete i k => exact measure_complete step
  | accept k => exact measure_accept step
  | handler k => exact measure_stepHandler step
  | turnAway k => exact measure_turnAway step
  | lose k => exact measure_lose step
  | shutdown => exact balanced.measure_shutdown step
  | serverWait => exact measure_serverWait step

end Session

/-! ### Who can step -/

/-- Among more addresses than RPCs, one is free. -/
theorem exists_free_address {rpcs : List GRPCClientRPC} (few : rpcs.length + 1 < 2 ^ 64) :
    ∃ address, 0 < address ∧ address < 2 ^ 64 ∧ ∀ rpc ∈ rpcs, rpc.address ≠ address := by
  have fewer : ((rpcs.map GRPCClientRPC.address).toFinset).card <
      (Finset.Ico 1 (rpcs.length + 2)).card := by
    rw [Nat.card_Ico]
    refine (List.toFinset_card_le _).trans_lt ?_
    rw [List.length_map]
    omega
  obtain ⟨address, inside, free⟩ := Finset.exists_mem_notMem_of_card_lt_card fewer
  obtain ⟨positive, below⟩ := Finset.mem_Ico.mp inside
  refine ⟨address, positive, by omega, ?_⟩
  rintro rpc member rfl
  exact free (List.mem_toFinset.mpr (List.mem_map_of_mem member))

namespace GRPCClient

variable {limit : Nat} {client : GRPCClient} {rpc : GRPCClientRPC}

theorem exists_sendOneRPC (few : client.rpcs.length + 1 < 2 ^ 64) (stub stream : Nat) :
    ∃ address next, client.sendOneRPC stub stream address = some next := by
  obtain ⟨address, free⟩ := exists_free_address few
  exact ⟨address, _, if_pos free⟩

/-- A callback only ever waits for the mutex. -/
theorem exists_stepCallback (few : client.rpcs.length + 1 < 2 ^ 64) {i : Nat}
    (found : client.rpcs[i]? = some rpc)
    (able : rpc.stage = .marking → client.inflightRpcsMtx = none) (keepRunning : Bool) :
    ∃ address next, client.stepCallback i keepRunning address = some next := by
  simp only [stepCallback, found, Option.bind_some]
  cases stage : rpc.stage with
  | sending =>
    refine exists_sendOneRPC ?_ _ _
    show (client.rpcs.set i _).length + 1 < 2 ^ 64
    rwa [List.length_set]
  | marking => exact ⟨0, _, if_pos (able stage)⟩
  | _ => exact ⟨0, _, rfl⟩

/-- The main thread waits for the mutex, and in `Wait` for the counter too. -/
theorem exists_stepMain (few : client.rpcs.length + 1 < 2 ^ 64)
    (locking : ∀ stub todo, client.main = .locking stub todo → client.inflightRpcsMtx = none)
    (waiting : client.main = .waiting →
      client.inflightRpcsMtx = none ∧ client.inflightRpcsCount = 0) (keepRunning : Bool) :
    ∃ address next, client.stepMain keepRunning address = some next := by
  unfold stepMain
  cases main : client.main with
  | looping todo =>
    cases todo with
    | nil => exact ⟨0, _, rfl⟩
    | cons stub todo => exact ⟨0, _, rfl⟩
  | locking stub todo => exact ⟨0, _, if_pos (locking stub todo main)⟩
  | sending stub todo =>
    obtain ⟨address, next, sent⟩ := exists_sendOneRPC few stub client.started.length
    exact ⟨address, _, Option.map_eq_some_iff.mpr ⟨next, sent, rfl⟩⟩
  | waiting => exact ⟨0, _, if_pos (waiting main)⟩
  | counting todo | unlocking todo | constructed | woken | waited => exact ⟨0, _, rfl⟩

/-- The holder of the mutex, unless it is the main thread, is a callback that can step. -/
theorem Accounted.exists_holder (accounted : client.Accounted limit)
    (free : client.main.holds = false) (taken : client.inflightRpcsMtx ≠ none) :
    ∃ (i : Nat) (rpc : GRPCClientRPC), client.rpcs[i]? = some rpc ∧ rpc.stage.holds = true := by
  cases mutex : client.inflightRpcsMtx with
  | none => exact absurd mutex taken
  | some holder =>
    cases holder with
    | main =>
      have holds := accounted.mutexMain.mp mutex
      rw [free] at holds
      cases holds
    | callback address =>
      have holding := accounted.mutexCallback
      rw [mutex] at holding
      have inside : address ∈ holdingAddresses client.rpcs := holding ▸ List.mem_singleton_self _
      obtain ⟨rpc, member, -⟩ := List.mem_map.mp inside
      obtain ⟨member, holds⟩ := List.mem_filter.mp member
      obtain ⟨i, found⟩ := List.mem_iff_getElem?.mp member
      exact ⟨i, rpc, found, holds⟩

/-- While the counter is not zero, a stream is carried on. -/
theorem Accounted.exists_carrier (accounted : client.Accounted limit)
    (waiting : client.main = .waiting) (count : client.inflightRpcsCount ≠ 0) :
    ∃ (i : Nat) (rpc : GRPCClientRPC), client.rpcs[i]? = some rpc ∧ rpc.stage.carries = true := by
  have counted := accounted.counted
  rw [waiting, ← accounted.streams.length_eq] at counted
  have some_ : 0 < (carriedStreams client.rpcs).length := by
    show 0 < _
    have none : Main.waiting.uncounted = 0 := rfl
    omega
  obtain ⟨stream, inside⟩ := List.exists_mem_of_length_pos some_
  obtain ⟨rpc, member, -⟩ := List.mem_map.mp inside
  obtain ⟨member, carries⟩ := List.mem_filter.mp member
  obtain ⟨i, found⟩ := List.mem_iff_getElem?.mp member
  exact ⟨i, rpc, found, carries⟩

end GRPCClient

namespace Session

variable {limit iterations visits : Nat} {session next : Session}

theorem step_client {thread : GRPCClient.Thread} {address : Nat} {client : GRPCClient}
    (allowed : (Action.client thread address).allowed session)
    (taken : session.client.stepThread thread (decide (0 < session.left)) address = some client) :
    ∃ next, Step session next :=
  ⟨_, .client thread address, allowed, Option.bind_eq_some_iff.mpr ⟨client, taken, rfl⟩⟩

/-- A callback behind its completion steps, unless it waits for the mutex. -/
theorem exists_step_callback (few : session.client.rpcs.length + 1 < 2 ^ 64) {i : Nat}
    {rpc : GRPCClientRPC} (found : session.client.rpcs[i]? = some rpc)
    (passed : rpc.stage ≠ .outstanding)
    (able : rpc.stage = .marking → session.client.inflightRpcsMtx = none) :
    ∃ next, Step session next := by
  obtain ⟨address, client, taken⟩ := GRPCClient.exists_stepCallback few found able
    (decide (0 < session.left))
  have allowed : (Action.client (.callback i) address).allowed session := by
    show session.client.rpcs[i]?.map GRPCClientRPC.stage ≠ some .outstanding
    rw [found]
    exact fun waits => passed (Option.some.inj waits)
  exact step_client allowed taken

/-- Whoever has the mutex steps. -/
theorem Balanced.exists_step_holder (balanced : session.Balanced limit iterations visits)
    (few : session.client.rpcs.length + 1 < 2 ^ 64) (free : session.client.main.holds = false)
    (taken : session.client.inflightRpcsMtx ≠ none) : ∃ next, Step session next := by
  obtain ⟨i, rpc, found, holds⟩ := balanced.accounted.exists_holder free taken
  refine exists_step_callback few found ?_ ?_
  · intro stage
    rw [stage] at holds
    cases holds
  · intro stage
    rw [stage] at holds
    cases holds

/-- An RPC that is outstanding is at the server, in a handler, or on its way back. -/
theorem Balanced.exists_step_outstanding (balanced : session.Balanced limit iterations visits)
    (serving : session.phase = .serving) {i : Nat} {rpc : GRPCClientRPC}
    (found : session.client.rpcs[i]? = some rpc) (waits : rpc.stage = .outstanding) :
    ∃ next, Step session next := by
  have inside : rpc.stream ∈ outstandingStreams session.client.rpcs :=
    List.mem_map_of_mem (List.mem_filter.mpr
      ⟨List.mem_of_getElem? found, decide_eq_true waits⟩)
  have carried := balanced.carried.mem_iff.mp inside
  rcases List.mem_append.mp carried with server | response
  · rcases List.mem_append.mp server with request | unanswered
    · obtain ⟨k, at_⟩ := List.mem_iff_getElem?.mp request
      exact ⟨_, .accept k, trivial, Option.bind_eq_some_iff.mpr
        ⟨(), if_pos serving, Option.bind_eq_some_iff.mpr ⟨_, at_, rfl⟩⟩⟩
    · obtain ⟨handler, member, -⟩ := List.mem_map.mp unanswered
      obtain ⟨k, at_⟩ := List.mem_iff_getElem?.mp (List.mem_filter.mp member).1
      have taken : ∃ next, session.stepHandler k = some next := by
        unfold Session.stepHandler
        rw [at_]
        cases stage : handler.stage <;> simp [stage]
      obtain ⟨next, taken⟩ := taken
      exact ⟨next, .handler k, trivial, taken⟩
  · obtain ⟨⟨stream, isOk⟩, member, same⟩ := List.mem_map.mp response
    obtain ⟨k, at_⟩ := List.mem_iff_getElem?.mp member
    exact ⟨_, .complete i k, trivial, Option.bind_eq_some_iff.mpr ⟨rpc, found,
      Option.bind_eq_some_iff.mpr ⟨_, at_, Option.bind_eq_some_iff.mpr
        ⟨(), if_pos ⟨waits, same⟩, rfl⟩⟩⟩⟩

/-- The handlers of the server return. -/
theorem exists_step_server (ended : session.phase = .shutDown) : ∃ next, Step session next := by
  cases handlers : session.handlers with
  | nil =>
    exact ⟨_, .serverWait, trivial, Option.bind_eq_some_iff.mpr
      ⟨(), if_pos ⟨ended, handlers⟩, rfl⟩⟩
  | cons handler rest =>
    have taken : ∃ next, session.stepHandler 0 = some next := by
      unfold Session.stepHandler
      rw [handlers, List.getElem?_cons_zero]
      cases stage : handler.stage <;> simp [stage]
    obtain ⟨next, taken⟩ := taken
    exact ⟨next, .handler 0, trivial, taken⟩

/-- No state before the end is stuck. -/
theorem Balanced.progress (balanced : session.Balanced limit iterations visits)
    (few : iterations + 1 < 2 ^ 64) (unfinished : session.phase ≠ .done) :
    ∃ next, Step session next := by
  have alive : session.client.rpcs.length + 1 < 2 ^ 64 := by
    have alive := balanced.alive
    have used := balanced.used
    have granted := balanced.granted
    omega
  cases phase : session.phase with
  | done => exact absurd phase unfinished
  | shutDown => exact exists_step_server phase
  | serving =>
    have main_ (inside : session.client.main ≠ .waited)
        (locking : ∀ stub todo, session.client.main = .locking stub todo →
          session.client.inflightRpcsMtx = none)
        (waiting : session.client.main = .waiting →
          session.client.inflightRpcsMtx = none ∧ session.client.inflightRpcsCount = 0) :
        ∃ next, Step session next := by
      obtain ⟨address, client, taken⟩ := GRPCClient.exists_stepMain alive locking waiting
        (decide (0 < session.left))
      have allowed : (Action.client .main address).allowed session := inside
      exact step_client allowed taken
    cases main : session.client.main with
    | locking stub todo =>
      by_cases free : session.client.inflightRpcsMtx = none
      · exact main_ (by rw [main]; nofun) (fun _ _ _ => free) (by rw [main]; nofun)
      · exact balanced.exists_step_holder alive (by rw [main]; rfl) free
    | waiting =>
      by_cases free : session.client.inflightRpcsMtx = none
      · by_cases count : session.client.inflightRpcsCount = 0
        · exact main_ (by rw [main]; nofun) (by rw [main]; nofun) fun _ => ⟨free, count⟩
        · obtain ⟨i, rpc, found, carries⟩ := balanced.accounted.exists_carrier main count
          by_cases waits : rpc.stage = .outstanding
          · exact balanced.exists_step_outstanding phase found waits
          · exact exists_step_callback alive found waits fun _ => free
      · exact balanced.exists_step_holder alive (by rw [main]; rfl) free
    | waited =>
      exact ⟨_, .shutdown, trivial, Option.bind_eq_some_iff.mpr
        ⟨(), if_pos ⟨main, phase⟩, rfl⟩⟩
    | looping todo | sending stub todo | counting todo | unlocking todo | constructed | woken =>
      exact main_ (by rw [main]; nofun) (by rw [main]; nofun) (by rw [main]; nofun)

/-! ### Every schedule ends -/

section Finishing

variable {opts : GRPCClientOptions} {clientCounters serverCounters : Option RPCCounters}

/-- From the start, in whatever order the parties step, `Wait` returns, and then every granted RPC
was sent, served or turned away, and seen complete. -/
theorem finishes (connected : opts.visits ≠ []) (few : iterations + 1 < 2 ^ 64)
    (clientZero : ∀ counters, clientCounters = some counters → counters = {})
    (serverZero : ∀ counters, serverCounters = some counters → counters = {}) :
    Inevitable Step
      (fun session => session.phase = .done ∧ session.Settled iterations opts.visits.length)
      (start opts iterations clientCounters serverCounters) := by
  have kept : ∀ before after,
      Relation.ReflTransGen Step (start opts iterations clientCounters serverCounters) before →
      Step before after →
      Relation.ReflTransGen Step (start opts iterations clientCounters serverCounters) after :=
    fun before after run step => run.tail step
  refine inevitable_of_measure measure kept ?_ ?_ .refl
  · exact fun before after run step =>
      (balanced_reachable clientZero serverZero run).decreases step
  · intro session run unfinished
    have balanced := balanced_reachable clientZero serverZero run
    refine balanced.progress few fun ended => unfinished ⟨ended, ?_⟩
    have waited := (balanced.shutDown (by rw [ended]; nofun)).1
    exact balanced.settled_of_waited (List.length_pos_of_ne_nil connected) waited

theorem finishes_bmRpcOptions :
    Inevitable Step (fun session => session.phase = .done ∧
        session.Settled 1000 (bmRpcOptions 8080).visits.length)
      (start (bmRpcOptions 8080) 1000 none (some {})) :=
  finishes (connected_bmRpcOptions 8080) (by decide) nofun
    fun _ same => (Option.some.inj same).symm

end Finishing

end Session

end Fleetbench.Rpc
