/-
This file models a whole run of the RPC benchmark (`rpc/rpcperf_benchmark.cc`
and `Wait` of `rpc/rpcperf.cc`): the client of `rpc/grpc_client.cc`, the
callback service of `rpc/grpc_server.cc`, the counters of both
(`rpc/rpc_counters.cc`), what is under way between them, and the benchmark
library, which grants a number of iterations.

A request that was sent reaches a handler of the server or is refused by the
transport; the handler finishes its reactor and counts the query afterwards; the
response reaches the client or is lost, and the client is told so. Every one of
these is a step of its own. The contents of messages, latencies and delays are
left out, and so is a connection that breaks while a handler is running: other
than at the shutdown, only requests and responses under way get lost. Ghost members
count the answers of the library, the RPCs that the client saw complete, and what
the transport or the shutdown has refused.
-/

import Fleetbench.Rpc.GrpcClient

namespace Fleetbench.Rpc

/-! ### Counters -/

/-- `RPCCounters`: of the latencies, their number. -/
structure RPCCounters where
  clientLatency : Nat := 0
  clientQueries : Nat := 0
  clientErrors : Nat := 0
  serverQueries : Nat := 0
  deriving DecidableEq, Repr

namespace RPCCounters

def clientRPCComplete (counters : RPCCounters) (isOk : Bool) : RPCCounters :=
  { counters with
    clientQueries := (counters.clientQueries + 1) % 2 ^ 64
    clientErrors :=
      if isOk then counters.clientErrors else (counters.clientErrors + 1) % 2 ^ 64
    clientLatency := counters.clientLatency + 1 }

def serverRPCComplete (counters : RPCCounters) : RPCCounters :=
  { counters with serverQueries := (counters.serverQueries + 1) % 2 ^ 64 }

end RPCCounters

/-! ### What a step of the client asks and sends -/

namespace GRPCClient

/-- The step calls `keep_running_`. -/
def asks (client : GRPCClient) : Thread → Bool
  | .main =>
    match client.main with
    | .looping (_ :: _) => true
    | _ => false
  | .callback i => (client.rpcs[i]?.map GRPCClientRPC.stage) = some .delaying

/-- The stream whose next RPC the step sends. -/
def sends (client : GRPCClient) : Thread → Option Nat
  | .main =>
    match client.main with
    | .sending _ _ => some client.started.length
    | _ => none
  | .callback i => client.rpcs[i]?.bind fun rpc =>
    if rpc.stage = .sending then some rpc.stream else none

end GRPCClient

/-! ### The server and the whole run -/

/-- A call of `PerfCallback::Message`: it still has its reactor to finish, or the query to
count. -/
inductive HandlerStage where
  | delaying
  | counting
  deriving DecidableEq, Repr

structure Handler where
  stream : Nat
  stage : HandlerStage
  deriving DecidableEq, Repr

/-- How far `Wait` has got with the server. -/
inductive Phase where
  | serving
  | shutDown
  | done
  deriving DecidableEq, Repr

structure Session where
  client : GRPCClient
  left : Nat
  requests : List Nat := []
  handlers : List Handler := []
  responses : List (Nat × Bool) := []
  clientCounters : Option RPCCounters
  serverCounters : Option RPCCounters
  phase : Phase := .serving
  granted : Nat := 0
  refused : Nat := 0
  completed : Nat := 0
  failed : Nat := 0
  served : Nat := 0
  turnedAway : Nat := 0
  lost : Nat := 0
  cut : Nat := 0
  deriving DecidableEq, Repr

namespace Session

/-- The run when the constructor of the client reaches its loops; the benchmark library grants
`iterations`. -/
def start (opts : GRPCClientOptions) (iterations : Nat)
    (clientCounters serverCounters : Option RPCCounters) : Session where
  client := .start opts
  left := iterations
  clientCounters
  serverCounters

/-- A step of the client, other than the completion of an RPC. `KeepRunning` says yes as long as
iterations are left. -/
def stepClient (session : Session) (thread : GRPCClient.Thread) (address : Nat) :
    Option Session := do
  let asks := session.client.asks thread
  let client ← session.client.stepThread thread (decide (0 < session.left)) address
  return { session with
    client
    left := if asks then session.left - 1 else session.left
    granted := if asks && decide (0 < session.left) then session.granted + 1 else session.granted
    refused := if asks && decide (session.left = 0) then session.refused + 1 else session.refused
    requests := session.requests ++ (session.client.sends thread).toList }

/-- An RPC completes with the response at position `k`, and its callback counts it. -/
def complete (session : Session) (i k : Nat) : Option Session := do
  let rpc ← session.client.rpcs[i]?
  let (stream, isOk) ← session.responses[k]?
  guard (rpc.stage = .outstanding ∧ stream = rpc.stream)
  return { session with
    client := session.client.advance i rpc .delaying
    responses := session.responses.eraseIdx k
    clientCounters := session.clientCounters.map fun counters => counters.clientRPCComplete isOk
    completed := session.completed + 1
    failed := if isOk then session.failed else session.failed + 1 }

/-- A request reaches a handler of the server. -/
def accept (session : Session) (k : Nat) : Option Session := do
  guard (session.phase = .serving)
  let stream ← session.requests[k]?
  return { session with
    requests := session.requests.eraseIdx k
    handlers := session.handlers ++ [⟨stream, .delaying⟩] }

/-- A handler finishes its reactor, or counts its query and returns. -/
def stepHandler (session : Session) (k : Nat) : Option Session := do
  let handler ← session.handlers[k]?
  match handler.stage with
  | .delaying => return { session with
      handlers := session.handlers.set k { handler with stage := .counting }
      responses := session.responses ++ [(handler.stream, true)] }
  | .counting => return { session with
      handlers := session.handlers.eraseIdx k
      serverCounters := session.serverCounters.map RPCCounters.serverRPCComplete
      served := session.served + 1 }

/-- The transport refuses a request. -/
def turnAway (session : Session) (k : Nat) : Option Session := do
  let stream ← session.requests[k]?
  return { session with
    requests := session.requests.eraseIdx k
    responses := session.responses ++ [(stream, false)]
    turnedAway := session.turnedAway + 1 }

/-- The transport loses a response. -/
def lose (session : Session) (k : Nat) : Option Session := do
  let (stream, isOk) ← session.responses[k]?
  guard (isOk = true)
  return { session with
    responses := session.responses.set k (stream, false)
    lost := session.lost + 1 }

/-- The handlers that have not finished their reactor. -/
def unanswered (session : Session) : List Nat :=
  (session.handlers.filter fun handler => handler.stage = .delaying).map Handler.stream

/-- `server->Shutdown()`: every call that is under way is cut off. -/
def shutdown (session : Session) : Option Session := do
  guard (session.client.main = .waited ∧ session.phase = .serving)
  return { session with
    phase := .shutDown
    requests := []
    handlers := session.handlers.map fun handler => { handler with stage := .counting }
    responses := session.responses ++
      (session.requests ++ session.unanswered).map fun stream => (stream, false)
    cut := session.cut + session.requests.length + session.unanswered.length }

/-- `server->Wait()` returns when no handler is running. -/
def serverWait (session : Session) : Option Session := do
  guard (session.phase = .shutDown ∧ session.handlers = [])
  return { session with phase := .done }

inductive Action where
  | client (thread : GRPCClient.Thread) (address : Nat)
  | complete (i k : Nat)
  | accept (k : Nat)
  | handler (k : Nat)
  | turnAway (k : Nat)
  | lose (k : Nat)
  | shutdown
  | serverWait
  deriving DecidableEq, Repr

/-- The client only steps where it does not wait for a response, and its main thread leaves it
when `Wait` has returned. -/
def Action.allowed (session : Session) : Action → Prop
  | .client .main _ => session.client.main ≠ .waited
  | .client (.callback i) _ =>
    session.client.rpcs[i]?.map GRPCClientRPC.stage ≠ some .outstanding
  | _ => True

def perform (session : Session) : Action → Option Session
  | .client thread address => session.stepClient thread address
  | .complete i k => session.complete i k
  | .accept k => session.accept k
  | .handler k => session.stepHandler k
  | .turnAway k => session.turnAway k
  | .lose k => session.lose k
  | .shutdown => session.shutdown
  | .serverWait => session.serverWait

/-- Some party takes a step. -/
def Step (before after : Session) : Prop :=
  ∃ action : Action, action.allowed before ∧ before.perform action = some after

end Session

end Fleetbench.Rpc
