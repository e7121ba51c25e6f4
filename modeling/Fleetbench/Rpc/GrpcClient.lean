/-
This file models `GRPCClient` of `rpc/grpc_client.cc`: the loop of the
constructor that starts streams of RPCs, the callback of an RPC, which sends
the next RPC of its stream or marks the stream done, and `Wait`. Callbacks run
in threads of their own. Every operation on the mutex or the counter and every
sending of an RPC is a step of its own, so that a callback may run while the
constructor has sent its RPC but not counted it yet. What `keep_running_`
answers is an argument of a step.

Some of the state is ghost, which no step reads for its decisions: the stubs of
the streams that were started, the streams that were marked done and the number
of RPCs sent.
-/

import Mathlib.Data.List.Infix
import Mathlib.Algebra.Ring.Nat

namespace Fleetbench.Rpc

/-! ### Options and stubs -/

structure GRPCClientOptions where
  peers : List String
  connectionsPerPeer : Int
  maxOutstandingRpcs : Int
  skipLoopback : Bool
  deriving DecidableEq, Repr

/-- `absl::StrContains`. -/
def strContains (haystack needle : String) : Bool :=
  needle.toList <:+: haystack.toList

/-- The peers that are not skipped. -/
def GRPCClientOptions.connectedPeers (opts : GRPCClientOptions) : List String :=
  opts.peers.filter fun peer =>
    !(peer.isEmpty || (opts.skipLoopback && strContains peer "localhost"))

/-- `stub_bufs_`: the peer and the number of the connection of each stub. -/
def GRPCClientOptions.stubBufs (opts : GRPCClientOptions) : List (String × Nat) :=
  opts.connectedPeers.flatMap fun peer =>
    (List.range opts.connectionsPerPeer.toNat).map fun i => (peer, i)

/-- The stubs that the two loops of the constructor visit, one after the other. -/
def GRPCClientOptions.visits (opts : GRPCClientOptions) : List Nat :=
  (List.replicate opts.maxOutstandingRpcs.toNat (List.range opts.stubBufs.length)).flatten

/-! ### The state -/

/-- Where an RPC is: sent and not answered, or in its callback. -/
inductive Stage where
  | outstanding
  | delaying
  | sending
  | marking
  | decrementing
  | unlocking
  | returning
  deriving DecidableEq, Repr

/-- An RPC whose callback has not returned. The callback lives at an address until then. -/
structure GRPCClientRPC where
  address : Nat
  stubBuf : Nat
  stream : Nat
  stage : Stage
  deriving DecidableEq, Repr

/-- Where the thread is that constructs the client and then calls `Wait`. -/
inductive Main where
  | looping (todo : List Nat)
  | locking (stub : Nat) (todo : List Nat)
  | sending (stub : Nat) (todo : List Nat)
  | counting (todo : List Nat)
  | unlocking (todo : List Nat)
  | constructed
  | waiting
  | woken
  | waited
  deriving DecidableEq, Repr

inductive Holder where
  | main
  | callback (address : Nat)
  deriving DecidableEq, Repr

structure GRPCClient where
  main : Main
  inflightRpcsMtx : Option Holder
  inflightRpcsCount : Nat
  rpcs : List GRPCClientRPC
  started : List Nat
  marked : List Nat
  sent : Nat
  deriving DecidableEq, Repr

namespace GRPCClient

/-- The client when its constructor reaches the loops. -/
def start (opts : GRPCClientOptions) : GRPCClient where
  main := .looping opts.visits
  inflightRpcsMtx := none
  inflightRpcsCount := 0
  rpcs := []
  started := []
  marked := []
  sent := 0

/-! ### Steps -/

/-- `SendOneRPC`, if the address is free. -/
def sendOneRPC (client : GRPCClient) (stub stream address : Nat) : Option GRPCClient :=
  if 0 < address ∧ address < 2 ^ 64 ∧ ∀ rpc ∈ client.rpcs, rpc.address ≠ address then
    some { client with
      rpcs := client.rpcs ++ [⟨address, stub, stream, .outstanding⟩]
      sent := client.sent + 1 }
  else none

def advance (client : GRPCClient) (i : Nat) (rpc : GRPCClientRPC) (stage : Stage) : GRPCClient :=
  { client with rpcs := client.rpcs.set i { rpc with stage := stage } }

/-- One step of the thread that constructs and waits. `LockWhen` takes the mutex once it is free
and the counter is zero. -/
def stepMain (client : GRPCClient) (keepRunning : Bool) (address : Nat) : Option GRPCClient :=
  match client.main with
  | .looping [] => some { client with main := .constructed }
  | .looping (stub :: todo) =>
    some { client with main := if keepRunning then .locking stub todo else .looping todo }
  | .locking stub todo =>
    if client.inflightRpcsMtx = none then
      some { client with main := .sending stub todo, inflightRpcsMtx := some .main }
    else none
  | .sending stub todo =>
    (client.sendOneRPC stub client.started.length address).map fun client =>
      { client with main := .counting todo, started := client.started ++ [stub] }
  | .counting todo =>
    some { client with
      main := .unlocking todo
      inflightRpcsCount := (client.inflightRpcsCount + 1) % 2 ^ 64 }
  | .unlocking todo => some { client with main := .looping todo, inflightRpcsMtx := none }
  | .constructed => some { client with main := .waiting }
  | .waiting =>
    if client.inflightRpcsMtx = none ∧ client.inflightRpcsCount = 0 then
      some { client with main := .woken, inflightRpcsMtx := some .main }
    else none
  | .woken => some { client with main := .waited, inflightRpcsMtx := none }
  | .waited => some { client with main := .waiting }

/-- One step of the callback at position `i`, of which the first is that the RPC completes. -/
def stepCallback (client : GRPCClient) (i : Nat) (keepRunning : Bool) (address : Nat) :
    Option GRPCClient :=
  client.rpcs[i]?.bind fun rpc =>
    match rpc.stage with
    | .outstanding => some (client.advance i rpc .delaying)
    | .delaying => some (client.advance i rpc (if keepRunning then .sending else .marking))
    | .sending =>
      (client.advance i rpc .returning).sendOneRPC rpc.stubBuf rpc.stream address
    | .marking =>
      if client.inflightRpcsMtx = none then
        some { client.advance i rpc .decrementing with
          inflightRpcsMtx := some (.callback rpc.address) }
      else none
    | .decrementing =>
      some { client.advance i rpc .unlocking with
        inflightRpcsCount := (client.inflightRpcsCount + 2 ^ 64 - 1) % 2 ^ 64
        marked := client.marked ++ [rpc.stream] }
    | .unlocking => some { client.advance i rpc .returning with inflightRpcsMtx := none }
    | .returning => some { client with rpcs := client.rpcs.eraseIdx i }

/-- Which thread takes the next step. -/
inductive Thread where
  | main
  | callback (i : Nat)
  deriving DecidableEq, Repr

def stepThread (client : GRPCClient) (thread : Thread) (keepRunning : Bool) (address : Nat) :
    Option GRPCClient :=
  match thread with
  | .main => client.stepMain keepRunning address
  | .callback i => client.stepCallback i keepRunning address

/-- Some thread takes a step. -/
def Step (before after : GRPCClient) : Prop :=
  ∃ thread keepRunning address, before.stepThread thread keepRunning address = some after

/-! ### What is observed -/

/-- The streams that were started by the constructor and have not executed
`MarkRPCStreamDone`. -/
def unfinished (client : GRPCClient) : List Nat :=
  (List.range client.started.length).filter fun stream => stream ∉ client.marked

/-- The number of RPCs of a stub that are outstanding. -/
def outstanding (client : GRPCClient) (stub : Nat) : Nat :=
  client.rpcs.countP fun rpc => rpc.stage = .outstanding ∧ rpc.stubBuf = stub

end GRPCClient

end Fleetbench.Rpc
