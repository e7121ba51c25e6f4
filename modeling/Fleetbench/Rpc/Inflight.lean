/-
This file is about the accounting of `GRPCClient`. An invariant ties the
counter to the streams that are unfinished, every unfinished stream to the one
RPC or callback that carries it on, and the mutex to the thread that holds it.
It holds along every run, so the counter never falls below zero, no stub has
more RPCs outstanding than it may, and behind `Wait` nothing is sent any more.
-/

import Fleetbench.Library.Transition
import Fleetbench.Rpc.GrpcClient
import Mathlib.Data.List.Nodup
import Mathlib.Data.List.Perm.Subperm
import Mathlib.Order.Interval.Finset.Nat

namespace Fleetbench.Rpc

open Library

/-! ### The invariant -/

/-- The RPC carries its stream on. -/
def Stage.carries : Stage → Bool
  | .outstanding | .delaying | .sending | .marking | .decrementing => true
  | .unlocking | .returning => false

def Stage.holds : Stage → Bool
  | .decrementing | .unlocking => true
  | .outstanding | .delaying | .sending | .marking | .returning => false

def Main.holds : Main → Bool
  | .sending _ _ | .counting _ | .unlocking _ | .woken => true
  | .looping _ | .locking _ _ | .constructed | .waiting | .waited => false

/-- The streams that are sent but not counted. -/
def Main.uncounted : Main → Nat
  | .counting _ => 1
  | _ => 0

/-- The visits of the constructor to stubs that may still start a stream. -/
def Main.todo : Main → List Nat
  | .looping todo | .counting todo | .unlocking todo => todo
  | .locking stub todo | .sending stub todo => stub :: todo
  | .constructed | .waiting | .woken | .waited => []

/-- The addresses of the callbacks that hold the mutex. -/
def callbackHolders : Option Holder → List Nat
  | some (.callback address) => [address]
  | _ => []

def carriedStreams (rpcs : List GRPCClientRPC) : List Nat :=
  (rpcs.filter fun rpc => rpc.stage.carries).map GRPCClientRPC.stream

def holdingAddresses (rpcs : List GRPCClientRPC) : List Nat :=
  (rpcs.filter fun rpc => rpc.stage.holds).map GRPCClientRPC.address

/-- The address, the stub and the stream of an RPC. -/
def GRPCClientRPC.identity (rpc : GRPCClientRPC) : Nat × Nat × Nat :=
  (rpc.address, rpc.stubBuf, rpc.stream)

/-- The RPCs have addresses of their own and belong to streams that were started. -/
structure Located (started : List Nat) (identities : List (Nat × Nat × Nat)) : Prop where
  distinct : (identities.map Prod.fst).Nodup
  range : ∀ identity ∈ identities, 0 < identity.1 ∧ identity.1 < 2 ^ 64
  stubs : ∀ identity ∈ identities, started[identity.2.2]? = some identity.2.1

namespace GRPCClient

structure Accounted (limit : Nat) (client : GRPCClient) : Prop where
  located : Located client.started (client.rpcs.map GRPCClientRPC.identity)
  streams : (carriedStreams client.rpcs).Perm client.unfinished
  counted : client.inflightRpcsCount + client.main.uncounted = client.unfinished.length
  mutexMain : client.inflightRpcsMtx = some .main ↔ client.main.holds = true
  mutexCallback : holdingAddresses client.rpcs = callbackHolders client.inflightRpcsMtx
  marked : ∀ stream ∈ client.marked, stream < client.started.length
  visits : ∀ stub, client.started.count stub + client.main.todo.count stub ≤ limit

end GRPCClient

/-! ### Lists of RPCs -/

/-- An RPC stands between those in front of it and those behind it. -/
theorem exists_split {rpcs : List GRPCClientRPC} {i : Nat} {rpc : GRPCClientRPC}
    (found : rpcs[i]? = some rpc) :
    ∃ front back, rpcs = front ++ rpc :: back ∧
      (∀ other, rpcs.set i other = front ++ other :: back) ∧ rpcs.eraseIdx i = front ++ back := by
  obtain ⟨inside, same⟩ := List.getElem?_eq_some_iff.mp found
  refine ⟨rpcs.take i, rpcs.drop (i + 1), ?_, fun other => ?_, ?_⟩
  · rw [← same, List.getElem_cons_drop, List.take_append_drop]
  · rw [List.set_eq_take_append_cons_drop, if_pos inside]
  · rw [List.eraseIdx_eq_take_drop_succ]

section Lists

variable (front back : List GRPCClientRPC) (rpc : GRPCClientRPC)

theorem carriedStreams_split :
    carriedStreams (front ++ rpc :: back) =
      carriedStreams front ++ (if rpc.stage.carries then [rpc.stream] else []) ++
        carriedStreams back := by
  unfold carriedStreams
  rw [List.filter_append, List.filter_cons, List.map_append]
  split
  · rw [List.map_cons, List.append_assoc]
    rfl
  · rw [List.append_nil]

theorem holdingAddresses_split :
    holdingAddresses (front ++ rpc :: back) =
      holdingAddresses front ++ (if rpc.stage.holds then [rpc.address] else []) ++
        holdingAddresses back := by
  unfold holdingAddresses
  rw [List.filter_append, List.filter_cons, List.map_append]
  split
  · rw [List.map_cons, List.append_assoc]
    rfl
  · rw [List.append_nil]

theorem carriedStreams_drop (gone : rpc.stage.carries = false) :
    carriedStreams (front ++ rpc :: back) = carriedStreams front ++ carriedStreams back := by
  rw [carriedStreams_split, gone, if_neg Bool.false_ne_true, List.append_nil]

theorem holdingAddresses_drop (free : rpc.stage.holds = false) :
    holdingAddresses (front ++ rpc :: back) = holdingAddresses front ++ holdingAddresses back := by
  rw [holdingAddresses_split, free, if_neg Bool.false_ne_true, List.append_nil]

theorem identities_split (stage : Stage) :
    (front ++ { rpc with stage := stage } :: back).map GRPCClientRPC.identity =
      (front ++ rpc :: back).map GRPCClientRPC.identity := by
  rw [List.map_append, List.map_append]
  rfl

theorem carriedStreams_append (first second : List GRPCClientRPC) :
    carriedStreams (first ++ second) = carriedStreams first ++ carriedStreams second := by
  unfold carriedStreams
  rw [List.filter_append, List.map_append]

theorem holdingAddresses_append (first second : List GRPCClientRPC) :
    holdingAddresses (first ++ second) = holdingAddresses first ++ holdingAddresses second := by
  unfold holdingAddresses
  rw [List.filter_append, List.map_append]

end Lists

theorem Located.sent {started : List Nat} {rpcs : List GRPCClientRPC} {rpc : GRPCClientRPC}
    (located : Located started (rpcs.map GRPCClientRPC.identity))
    (range : 0 < rpc.address ∧ rpc.address < 2 ^ 64)
    (fresh : ∀ other ∈ rpcs, other.address ≠ rpc.address)
    (stub : started[rpc.stream]? = some rpc.stubBuf) :
    Located started ((rpcs ++ [rpc]).map GRPCClientRPC.identity) where
  distinct := by
    rw [List.map_append, List.map_append, List.nodup_append]
    refine ⟨located.distinct, List.nodup_singleton _, ?_⟩
    intro address member other last
    obtain ⟨identity, inside, rfl⟩ := List.mem_map.mp member
    obtain ⟨older, at_, rfl⟩ := List.mem_map.mp inside
    rw [List.mem_singleton.mp last]
    exact fresh older at_
  range identity member := by
    rw [List.map_append, List.mem_append] at member
    rcases member with old | new
    · exact located.range identity old
    · rw [List.mem_singleton.mp new]
      exact range
  stubs identity member := by
    rw [List.map_append, List.mem_append] at member
    rcases member with old | new
    · exact located.stubs identity old
    · rw [List.mem_singleton.mp new]
      exact stub

theorem Located.started {started : List Nat} {identities : List (Nat × Nat × Nat)}
    (located : Located started identities) (stub : Nat) :
    Located (started ++ [stub]) identities where
  distinct := located.distinct
  range := located.range
  stubs identity member := by
    have found := located.stubs identity member
    rw [List.getElem?_append_left (List.getElem?_eq_some_iff.mp found).1]
    exact found

theorem Located.sublist {started : List Nat} {identities fewer : List (Nat × Nat × Nat)}
    (located : Located started identities) (sub : fewer.Sublist identities) :
    Located started fewer where
  distinct := located.distinct.sublist (sub.map Prod.fst)
  range identity member := located.range identity (sub.subset member)
  stubs identity member := located.stubs identity (sub.subset member)

/-- There are fewer RPCs than addresses. -/
theorem Located.length_lt {started : List Nat} {identities : List (Nat × Nat × Nat)}
    (located : Located started identities) : identities.length < 2 ^ 64 := by
  have inside : (identities.map Prod.fst).toFinset ⊆ Finset.Ico 1 (2 ^ 64) := by
    intro address member
    obtain ⟨identity, at_, rfl⟩ := List.mem_map.mp (List.mem_toFinset.mp member)
    obtain ⟨low, high⟩ := located.range identity at_
    exact Finset.mem_Ico.mpr ⟨low, high⟩
  have bound := Finset.card_le_card inside
  rw [List.toFinset_card_of_nodup located.distinct, List.length_map, Nat.card_Ico] at bound
  exact Nat.lt_of_le_of_lt bound (by decide)

namespace GRPCClient

variable {limit : Nat} {client next : GRPCClient}

/-! ### Streams -/

theorem unfinished_started {stub : Nat} (started : next.started = client.started ++ [stub])
    (same : next.marked = client.marked)
    (marked : ∀ stream ∈ client.marked, stream < client.started.length) :
    next.unfinished = client.unfinished ++ [client.started.length] := by
  have unmarked : client.started.length ∉ client.marked := fun member =>
    Nat.lt_irrefl _ (marked _ member)
  unfold unfinished
  rw [started, same, List.length_append, List.length_singleton, List.range_succ,
    List.filter_append]
  congr 1
  rw [List.filter_singleton, decide_eq_true unmarked]
  rfl

theorem unfinished_marked {stream : Nat} (same : next.started = client.started)
    (marked : next.marked = client.marked ++ [stream]) :
    next.unfinished = client.unfinished.erase stream := by
  have distinct : client.unfinished.Nodup := List.nodup_range.filter _
  rw [distinct.erase_eq_filter]
  unfold unfinished
  rw [same, marked, List.filter_filter]
  refine List.filter_congr fun other _ => ?_
  by_cases equal : other = stream
  · simp [equal]
  · simp [equal]

/-- There are fewer unfinished streams than addresses. -/
theorem Accounted.unfinished_lt (accounted : client.Accounted limit) :
    client.unfinished.length < 2 ^ 64 := by
  have few := accounted.located.length_lt
  rw [List.length_map] at few
  have carried : (carriedStreams client.rpcs).length ≤ client.rpcs.length := by
    unfold carriedStreams
    rw [List.length_map]
    exact List.length_filter_le _ _
  rw [accounted.streams.length_eq] at carried
  exact Nat.lt_of_le_of_lt carried few

/-! ### Steps of callbacks -/

section Callback

variable {i : Nat} {rpc : GRPCClientRPC}

/-- A callback that carries its stream on as before, and may take or release the mutex. -/
theorem Accounted.moved (accounted : client.Accounted limit) (found : client.rpcs[i]? = some rpc)
    {stage : Stage} (carries : stage.carries = rpc.stage.carries) {mutex : Option Holder}
    (mutexMain : mutex = some .main ↔ client.main.holds = true)
    (mutexCallback : holdingAddresses (client.advance i rpc stage).rpcs = callbackHolders mutex) :
    ({ client.advance i rpc stage with inflightRpcsMtx := mutex } :
      GRPCClient).Accounted limit := by
  obtain ⟨front, back, split, set, -⟩ := exists_split found
  have rpcs : (client.advance i rpc stage).rpcs = front ++ { rpc with stage := stage } :: back :=
    set _
  refine ⟨?_, ?_, accounted.counted, mutexMain, mutexCallback, accounted.marked, accounted.visits⟩
  · show Located client.started ((client.advance i rpc stage).rpcs.map _)
    rw [rpcs, identities_split, ← split]
    exact accounted.located
  · show (carriedStreams (client.advance i rpc stage).rpcs).Perm client.unfinished
    have same := accounted.streams
    rw [split, carriedStreams_split] at same
    rw [rpcs, carriedStreams_split, carries]
    exact same

/-- Neither the stream nor the mutex is concerned. -/
theorem Accounted.advanced (accounted : client.Accounted limit)
    (found : client.rpcs[i]? = some rpc) {stage : Stage}
    (carries : stage.carries = rpc.stage.carries) (holds : stage.holds = rpc.stage.holds) :
    (client.advance i rpc stage).Accounted limit := by
  refine accounted.moved found carries accounted.mutexMain ?_
  obtain ⟨front, back, split, set, -⟩ := exists_split found
  have rpcs : (client.advance i rpc stage).rpcs = front ++ { rpc with stage := stage } :: back :=
    set _
  have same := accounted.mutexCallback
  rw [split, holdingAddresses_split] at same
  rw [rpcs, holdingAddresses_split, holds]
  exact same

/-- The addresses that hold the mutex besides an RPC. -/
theorem Accounted.holding_split (accounted : client.Accounted limit)
    {front back : List GRPCClientRPC} (split : client.rpcs = front ++ rpc :: back) :
    holdingAddresses front ++ (if rpc.stage.holds then [rpc.address] else []) ++
      holdingAddresses back = callbackHolders client.inflightRpcsMtx := by
  rw [← holdingAddresses_split, ← split]
  exact accounted.mutexCallback

/-- A callback that holds the mutex is the only one, and the mutex says so. -/
theorem Accounted.holder (accounted : client.Accounted limit)
    {front back : List GRPCClientRPC} (split : client.rpcs = front ++ rpc :: back)
    (holds : rpc.stage.holds = true) :
    client.inflightRpcsMtx = some (.callback rpc.address) ∧ holdingAddresses front = [] ∧
      holdingAddresses back = [] := by
  have holding := accounted.holding_split split
  rw [if_pos holds] at holding
  have count := congrArg List.length holding
  rw [List.length_append, List.length_append, List.length_singleton] at count
  cases mutex : client.inflightRpcsMtx with
  | none =>
    rw [mutex] at count
    have nobody : (callbackHolders none).length = 0 := rfl
    omega
  | some holder =>
    cases holder with
    | main =>
      rw [mutex] at count
      have nobody : (callbackHolders (some .main)).length = 0 := rfl
      omega
    | callback address =>
      rw [mutex, callbackHolders, List.length_singleton] at count
      have noFront : holdingAddresses front = [] := List.eq_nil_of_length_eq_zero (by omega)
      have noBack : holdingAddresses back = [] := List.eq_nil_of_length_eq_zero (by omega)
      rw [noFront, noBack, mutex] at holding
      have same : rpc.address = address := (List.cons.inj holding).1
      exact ⟨same ▸ rfl, noFront, noBack⟩

/-- While a callback holds the mutex, the constructor does not. -/
theorem Accounted.main_of_holder (accounted : client.Accounted limit) {address : Nat}
    (mutex : client.inflightRpcsMtx = some (.callback address)) : client.main.holds = false := by
  cases holds : client.main.holds with
  | false => rfl
  | true =>
    cases mutex.symm.trans (accounted.mutexMain.mpr holds)

theorem uncounted_of_not_holds {main : Main} (free : main.holds = false) : main.uncounted = 0 := by
  cases main with
  | counting todo => cases free
  | _ => rfl

/-- A callback in front of its decrement finds its stream counted. -/
theorem Accounted.count_pos (accounted : client.Accounted limit)
    (member : rpc ∈ client.rpcs) (stage : rpc.stage = .decrementing) :
    0 < client.inflightRpcsCount ∧ client.inflightRpcsCount = client.unfinished.length ∧
      rpc.stream ∈ client.unfinished := by
  obtain ⟨front, back, split⟩ := List.append_of_mem member
  obtain ⟨mutex, -, -⟩ := accounted.holder split (by rw [stage]; rfl)
  have counted := accounted.counted
  rw [uncounted_of_not_holds (accounted.main_of_holder mutex), Nat.add_zero] at counted
  have carried : rpc.stream ∈ carriedStreams client.rpcs :=
    List.mem_map_of_mem (List.mem_filter.mpr ⟨member, by rw [stage]; rfl⟩)
  have unfinished := accounted.streams.mem_iff.mp carried
  exact ⟨counted ▸ List.length_pos_of_mem unfinished, counted, unfinished⟩

theorem Accounted.decremented (accounted : client.Accounted limit)
    (found : client.rpcs[i]? = some rpc) (stage : rpc.stage = .decrementing) :
    ({ client.advance i rpc .unlocking with
      inflightRpcsCount := (client.inflightRpcsCount + 2 ^ 64 - 1) % 2 ^ 64
      marked := client.marked ++ [rpc.stream] } : GRPCClient).Accounted limit := by
  obtain ⟨front, back, split, set, -⟩ := exists_split found
  have member := List.mem_of_getElem? found
  have rpcs : (client.advance i rpc .unlocking).rpcs =
      front ++ { rpc with stage := .unlocking } :: back := set _
  obtain ⟨mutex, noFront, noBack⟩ := accounted.holder split (by rw [stage]; rfl)
  have free := accounted.main_of_holder mutex
  obtain ⟨positive, counted, unfinished⟩ := accounted.count_pos member stage
  have few := accounted.unfinished_lt
  generalize same : ({ client.advance i rpc .unlocking with
    inflightRpcsCount := (client.inflightRpcsCount + 2 ^ 64 - 1) % 2 ^ 64
    marked := client.marked ++ [rpc.stream] } : GRPCClient) = next
  have erased : next.unfinished = client.unfinished.erase rpc.stream :=
    unfinished_marked (by rw [← same]; rfl) (by rw [← same])
  have rpcs' : next.rpcs = front ++ { rpc with stage := .unlocking } :: back := by
    rw [← same]
    exact rpcs
  have started : next.started = client.started := by rw [← same]; rfl
  refine ⟨?_, ?_, ?_, ?_, ?_, ?_, ?_⟩
  · rw [rpcs', identities_split, ← split, started]
    exact accounted.located
  · have streams := accounted.streams
    have carries : rpc.stage.carries = true := by
      rw [stage]
      rfl
    rw [split, carriedStreams_split, if_pos carries, List.append_assoc] at streams
    rw [erased, rpcs', carriedStreams_drop front back { rpc with stage := .unlocking } rfl]
    have middle := (List.perm_middle.symm.trans streams).erase rpc.stream
    rwa [List.erase_cons_head] at middle
  · have uncounted : next.main.uncounted = 0 := by
      rw [← same]
      exact uncounted_of_not_holds free
    have count : next.inflightRpcsCount = (client.inflightRpcsCount + 2 ^ 64 - 1) % 2 ^ 64 := by
      rw [← same]
    rw [uncounted, count, erased, List.length_erase_of_mem unfinished, ← counted]
    omega
  · rw [← same]
    exact accounted.mutexMain
  · have mutex' : next.inflightRpcsMtx = some (.callback rpc.address) := by
      rw [← same]
      exact mutex
    rw [rpcs', holdingAddresses_split, noFront, noBack, mutex']
    rfl
  · have marked : next.marked = client.marked ++ [rpc.stream] := by rw [← same]
    rw [marked, started]
    intro stream at_
    rcases List.mem_append.mp at_ with old | new
    · exact accounted.marked stream old
    · rw [List.mem_singleton.mp new]
      exact List.mem_range.mp (List.mem_of_mem_filter unfinished)
  · rw [← same]
    exact accounted.visits

theorem Accounted.returned (accounted : client.Accounted limit)
    (found : client.rpcs[i]? = some rpc) (stage : rpc.stage = .returning) :
    ({ client with rpcs := client.rpcs.eraseIdx i } : GRPCClient).Accounted limit := by
  obtain ⟨front, back, split, -, erased⟩ := exists_split found
  rw [erased]
  refine ⟨?_, ?_, accounted.counted, accounted.mutexMain, ?_, accounted.marked, accounted.visits⟩
  · refine accounted.located.sublist (List.Sublist.map _ ?_)
    rw [split]
    exact (List.Sublist.refl front).append (List.sublist_cons_self rpc back)
  · show (carriedStreams (front ++ back)).Perm client.unfinished
    have streams := accounted.streams
    rwa [split, carriedStreams_drop front back rpc (by rw [stage]; rfl),
      ← carriedStreams_append] at streams
  · show holdingAddresses (front ++ back) = callbackHolders client.inflightRpcsMtx
    have holding := accounted.mutexCallback
    rwa [split, holdingAddresses_drop front back rpc (by rw [stage]; rfl),
      ← holdingAddresses_append] at holding

/-- What `SendOneRPC` does. -/
theorem sendOneRPC_eq {stub stream address : Nat}
    (sent : client.sendOneRPC stub stream address = some next) :
    (0 < address ∧ address < 2 ^ 64) ∧ (∀ rpc ∈ client.rpcs, rpc.address ≠ address) ∧
      next = { client with
        rpcs := client.rpcs ++ [⟨address, stub, stream, .outstanding⟩]
        sent := client.sent + 1 } := by
  unfold sendOneRPC at sent
  split at sent
  · rename_i free
    exact ⟨⟨free.1, free.2.1⟩, free.2.2, (Option.some.inj sent).symm⟩
  · cases sent

/-- The callback hands its stream on to the RPC it sends. -/
theorem Accounted.resent (accounted : client.Accounted limit)
    (found : client.rpcs[i]? = some rpc) (stage : rpc.stage = .sending) {address : Nat}
    (sent : (client.advance i rpc .returning).sendOneRPC rpc.stubBuf rpc.stream address =
      some next) : next.Accounted limit := by
  obtain ⟨range, fresh, rfl⟩ := sendOneRPC_eq sent
  obtain ⟨front, back, split, set, -⟩ := exists_split found
  have rpcs : (client.advance i rpc .returning).rpcs =
      front ++ { rpc with stage := .returning } :: back := set _
  have identities : (client.advance i rpc .returning).rpcs.map GRPCClientRPC.identity =
      client.rpcs.map GRPCClientRPC.identity := by
    rw [rpcs, identities_split, ← split]
  refine ⟨?_, ?_, accounted.counted, accounted.mutexMain, ?_, accounted.marked, accounted.visits⟩
  · refine Located.sent ?_ range fresh ?_
    · rw [identities]
      exact accounted.located
    · have member := List.mem_of_getElem? found
      exact accounted.located.stubs rpc.identity (List.mem_map_of_mem member)
  · show (carriedStreams ((client.advance i rpc .returning).rpcs ++ _)).Perm client.unfinished
    have streams := accounted.streams
    have carries : rpc.stage.carries = true := by
      rw [stage]
      rfl
    rw [split, carriedStreams_split, if_pos carries, List.append_assoc] at streams
    rw [carriedStreams_append, rpcs,
      carriedStreams_drop front back { rpc with stage := .returning } rfl, List.append_assoc]
    exact ((List.perm_append_comm).append_left _).trans streams
  · show holdingAddresses ((client.advance i rpc .returning).rpcs ++ _) =
      callbackHolders client.inflightRpcsMtx
    have holding := accounted.mutexCallback
    rw [split, holdingAddresses_drop front back rpc (by rw [stage]; rfl)] at holding
    rw [holdingAddresses_append, rpcs,
      holdingAddresses_drop front back { rpc with stage := .returning } rfl, ← holding]
    exact List.append_nil _

theorem Accounted.stepCallback (accounted : client.Accounted limit) {keepRunning : Bool}
    {address : Nat} (step : client.stepCallback i keepRunning address = some next) :
    next.Accounted limit := by
  obtain ⟨rpc, found, step⟩ := Option.bind_eq_some_iff.mp step
  obtain ⟨front, back, split, set, -⟩ := exists_split found
  cases stage : rpc.stage with
  | outstanding =>
    rw [stage] at step
    cases step
    exact accounted.advanced found (by rw [stage]; rfl) (by rw [stage]; rfl)
  | delaying =>
    rw [stage] at step
    cases step
    cases keepRunning with
    | true => exact accounted.advanced found (by rw [stage]; rfl) (by rw [stage]; rfl)
    | false => exact accounted.advanced found (by rw [stage]; rfl) (by rw [stage]; rfl)
  | sending =>
    rw [stage] at step
    exact accounted.resent found stage step
  | marking =>
    rw [stage] at step
    dsimp only at step
    split at step
    · rename_i free
      cases step
      refine accounted.moved found (by rw [stage]; rfl) ?_ ?_
      · refine ⟨nofun, fun holds => ?_⟩
        cases free.symm.trans (accounted.mutexMain.mpr holds)
      · have rpcs : (client.advance i rpc .decrementing).rpcs =
            front ++ { rpc with stage := .decrementing } :: back := set _
        have holding := accounted.holding_split split
        rw [free, stage] at holding
        obtain ⟨noFront, noBack⟩ := List.append_eq_nil_iff.mp holding
        rw [List.append_eq_nil_iff] at noFront
        rw [rpcs, holdingAddresses_split, noFront.1, noBack]
        rfl
    · cases step
  | decrementing =>
    rw [stage] at step
    cases step
    exact accounted.decremented found stage
  | unlocking =>
    rw [stage] at step
    cases step
    obtain ⟨mutex, noFront, noBack⟩ := accounted.holder split (by rw [stage]; rfl)
    refine accounted.moved found (by rw [stage]; rfl) ?_ ?_
    · rw [accounted.main_of_holder mutex]
      exact ⟨nofun, nofun⟩
    · have rpcs : (client.advance i rpc .returning).rpcs =
          front ++ { rpc with stage := .returning } :: back := set _
      rw [rpcs, holdingAddresses_drop front back { rpc with stage := .returning } rfl, noFront,
        noBack]
      rfl
  | returning =>
    rw [stage] at step
    cases step
    exact accounted.returned found stage

end Callback

/-! ### Steps of the constructor and of `Wait` -/

/-- A step that concerns no RPC and no stream. -/
theorem Accounted.main (accounted : client.Accounted limit) {main : Main}
    {mutex : Option Holder} (uncounted : main.uncounted = client.main.uncounted)
    (mutexMain : mutex = some .main ↔ main.holds = true)
    (mutexCallback : callbackHolders mutex = callbackHolders client.inflightRpcsMtx)
    (todo : ∀ stub, main.todo.count stub ≤ client.main.todo.count stub) :
    ({ client with main := main, inflightRpcsMtx := mutex } : GRPCClient).Accounted limit := by
  refine ⟨accounted.located, accounted.streams, ?_, mutexMain, ?_, accounted.marked,
    fun stub => ?_⟩
  · show client.inflightRpcsCount + main.uncounted = _
    rw [uncounted]
    exact accounted.counted
  · exact accounted.mutexCallback.trans mutexCallback.symm
  · exact (Nat.add_le_add_left (todo stub) _).trans (accounted.visits stub)

/-- The main thread starts a stream: the RPC it sends is not counted yet. -/
theorem Accounted.sent (accounted : client.Accounted limit) {stub address : Nat}
    {todo : List Nat} {between : GRPCClient} (main : client.main = .sending stub todo)
    (sent : client.sendOneRPC stub client.started.length address = some between) :
    ({ between with main := .counting todo, started := between.started ++ [stub] } :
      GRPCClient).Accounted limit := by
  have mutexMain := accounted.mutexMain
  have visits := accounted.visits
  rw [main] at mutexMain
  obtain ⟨range, fresh, rfl⟩ := sendOneRPC_eq sent
  generalize same : ({ client with
    main := .counting todo
    rpcs := client.rpcs ++ [⟨address, stub, client.started.length, .outstanding⟩]
    started := client.started ++ [stub]
    sent := client.sent + 1 } : GRPCClient) = next
  have unfinished : next.unfinished = client.unfinished ++ [client.started.length] :=
    unfinished_started (by rw [← same]) (by rw [← same]) accounted.marked
  have counted := accounted.counted
  rw [main] at counted
  subst same
  refine ⟨?_, ?_, ?_, mutexMain, ?_, ?_, fun other => ?_⟩
  · exact (accounted.located.started stub).sent range fresh List.getElem?_concat_length
  · rw [unfinished]
    show (carriedStreams (client.rpcs ++ _)).Perm _
    rw [carriedStreams_append]
    exact accounted.streams.append_right _
  · rw [unfinished, List.length_append]
    exact congrArg (· + 1) counted
  · show holdingAddresses (client.rpcs ++ _) = _
    rw [holdingAddresses_append]
    exact (List.append_nil _).trans accounted.mutexCallback
  · intro stream member
    refine Nat.lt_of_lt_of_le (accounted.marked stream member) ?_
    show _ ≤ (client.started ++ [stub]).length
    rw [List.length_append]
    exact Nat.le_add_right _ _
  · have left := visits other
    rw [main] at left
    have left' : client.started.count other + (stub :: todo).count other ≤ limit := left
    show (client.started ++ [stub]).count other + todo.count other ≤ limit
    rw [List.count_append]
    rw [List.count_cons] at left'
    have one : [stub].count other = if stub == other then 1 else 0 := List.count_singleton
    omega

/-- The main thread counts the RPC it has sent; no more streams are unfinished than there are
addresses, so the counter does not wrap. -/
theorem Accounted.counting (accounted : client.Accounted limit) {todo : List Nat}
    (main : client.main = .counting todo) :
    ({ client with
      main := .unlocking todo
      inflightRpcsCount := (client.inflightRpcsCount + 1) % 2 ^ 64 } :
      GRPCClient).Accounted limit := by
  have mutexMain := accounted.mutexMain
  have visits := accounted.visits
  rw [main] at mutexMain
  have counted := accounted.counted
  rw [main] at counted
  have few := accounted.unfinished_lt
  refine ⟨accounted.located, accounted.streams, ?_, mutexMain, accounted.mutexCallback,
    accounted.marked, fun other => ?_⟩
  · show (client.inflightRpcsCount + 1) % 2 ^ 64 + 0 = client.unfinished.length
    have counted' : client.inflightRpcsCount + 1 = client.unfinished.length := counted
    omega
  · have left := visits other
    rw [main] at left
    exact left

theorem Accounted.stepMain (accounted : client.Accounted limit) {keepRunning : Bool}
    {address : Nat} (step : client.stepMain keepRunning address = some next) :
    next.Accounted limit := by
  have mutexMain := accounted.mutexMain
  unfold GRPCClient.stepMain at step
  cases main : client.main with
  | looping todo =>
    rw [main] at step mutexMain
    cases todo with
    | nil =>
      cases step
      exact accounted.main (by rw [main]; rfl) mutexMain rfl fun stub => Nat.zero_le _
    | cons stub todo =>
      cases step
      cases keepRunning with
      | true =>
        exact accounted.main (by rw [main]; rfl) mutexMain rfl fun other => by rw [main]; rfl
      | false =>
        refine accounted.main (by rw [main]; rfl) mutexMain rfl fun other => ?_
        rw [main]
        exact List.count_le_count_cons
  | locking stub todo =>
    rw [main] at step
    dsimp only at step
    split at step
    · rename_i free
      cases step
      exact accounted.main (by rw [main]; rfl) ⟨fun _ => rfl, fun _ => rfl⟩ (by rw [free]; rfl)
        fun other => by rw [main]; rfl
    · cases step
  | sending stub todo =>
    rw [main] at step
    obtain ⟨between, sent, rfl⟩ := Option.map_eq_some_iff.mp step
    exact accounted.sent main sent
  | counting todo =>
    rw [main] at step
    cases step
    exact accounted.counting main
  | unlocking todo =>
    rw [main] at step mutexMain
    cases step
    exact accounted.main (by rw [main]; rfl) ⟨nofun, nofun⟩ (by rw [mutexMain.mpr rfl]; rfl)
      fun other => by rw [main]; rfl
  | constructed =>
    rw [main] at step mutexMain
    cases step
    exact accounted.main (by rw [main]; rfl) mutexMain rfl fun other => Nat.zero_le _
  | waiting =>
    rw [main] at step
    dsimp only at step
    split at step
    · rename_i free
      cases step
      exact accounted.main (by rw [main]; rfl) ⟨fun _ => rfl, fun _ => rfl⟩ (by rw [free.1]; rfl)
        fun other => Nat.zero_le _
    · cases step
  | woken =>
    rw [main] at step mutexMain
    cases step
    exact accounted.main (by rw [main]; rfl) ⟨nofun, nofun⟩ (by rw [mutexMain.mpr rfl]; rfl)
      fun other => Nat.zero_le _
  | waited =>
    rw [main] at step mutexMain
    cases step
    exact accounted.main (by rw [main]; rfl) mutexMain rfl fun other => Nat.zero_le _

/-! ### Runs -/

theorem Accounted.step (accounted : client.Accounted limit) (step : Step client next) :
    next.Accounted limit := by
  obtain ⟨thread, keepRunning, address, step⟩ := step
  cases thread with
  | main => exact accounted.stepMain step
  | callback i => exact accounted.stepCallback step

/-- The loops of the constructor visit every stub as often as RPCs may be outstanding there. -/
theorem count_visits (opts : GRPCClientOptions) (stub : Nat) :
    opts.visits.count stub ≤ opts.maxOutstandingRpcs.toNat := by
  unfold GRPCClientOptions.visits
  rw [List.count_flatten, List.map_replicate, List.sum_replicate]
  have once : (List.range opts.stubBufs.length).count stub ≤ 1 :=
    List.nodup_iff_count_le_one.mp List.nodup_range stub
  exact (Nat.mul_le_mul_left _ once).trans (Nat.le_of_eq (Nat.mul_one _))

theorem accounted_start (opts : GRPCClientOptions) :
    (start opts).Accounted opts.maxOutstandingRpcs.toNat where
  located := ⟨List.nodup_nil, nofun, nofun⟩
  streams := .nil
  counted := rfl
  mutexMain := ⟨nofun, nofun⟩
  mutexCallback := rfl
  marked := nofun
  visits stub := by
    show List.count stub [] + opts.visits.count stub ≤ _
    rw [List.count_nil, Nat.zero_add]
    exact count_visits opts stub

theorem accounted_reachable {opts : GRPCClientOptions}
    (run : Relation.ReflTransGen Step (start opts) client) :
    client.Accounted opts.maxOutstandingRpcs.toNat :=
  reachable_invariant (accounted_start opts) (fun _ _ => Accounted.step) run

/-! ### What the accounting gives -/

theorem length_filter_range (values : List Nat) (value : Nat) :
    ((List.range values.length).filter fun position => values[position]? = some value).length =
      values.count value := by
  induction values using List.reverseRecOn with
  | nil => rfl
  | append_singleton front last inductionHypothesis =>
    have before : (List.range front.length).filter
        (fun position => (front ++ [last])[position]? = some value) =
        (List.range front.length).filter fun position => front[position]? = some value := by
      refine List.filter_congr fun position member => ?_
      rw [List.getElem?_append_left (List.mem_range.mp member)]
    rw [List.length_append, List.length_singleton, List.range_succ, List.filter_append, before,
      List.length_append, inductionHypothesis, List.count_append, List.filter_singleton,
      List.getElem?_concat_length, List.count_singleton]
    by_cases same : last = value
    · simp [same]
    · simp [same]

/-- Positions with a value, without repetition, are at most as many as the value has. -/
theorem length_le_count {positions values : List Nat} {value : Nat} (distinct : positions.Nodup)
    (found : ∀ position ∈ positions, values[position]? = some value) :
    positions.length ≤ values.count value := by
  rw [← length_filter_range]
  refine (distinct.subperm fun position member => ?_).length_le
  have at_ := found position member
  refine List.mem_filter.mpr ⟨List.mem_range.mpr (List.getElem?_eq_some_iff.mp at_).1, ?_⟩
  exact decide_eq_true at_

theorem Accounted.outstanding_le (accounted : client.Accounted limit) (stub : Nat) :
    client.outstanding stub ≤ limit := by
  have distinct : (carriedStreams client.rpcs).Nodup :=
    accounted.streams.nodup_iff.mpr (List.nodup_range.filter _)
  have fewer : ((client.rpcs.filter fun rpc =>
      rpc.stage = .outstanding ∧ rpc.stubBuf = stub).map GRPCClientRPC.stream).Sublist
        (carriedStreams client.rpcs) := by
    refine List.Sublist.map _ (List.monotone_filter_right _ fun rpc wanted => ?_)
    rw [(of_decide_eq_true wanted).1]
    rfl
  have started : client.outstanding stub ≤ client.started.count stub := by
    unfold outstanding
    rw [List.countP_eq_length_filter, ← List.length_map GRPCClientRPC.stream]
    refine length_le_count (distinct.sublist fewer) fun stream member => ?_
    obtain ⟨rpc, inside, rfl⟩ := List.mem_map.mp member
    obtain ⟨at_, wanted⟩ := List.mem_filter.mp inside
    rw [← (of_decide_eq_true wanted).2]
    exact accounted.located.stubs rpc.identity (List.mem_map_of_mem at_)
  exact started.trans ((Nat.le_add_right _ _).trans (accounted.visits stub))

/-- Behind the constructor, with every stream done. -/
structure Quiet (client : GRPCClient) : Prop where
  main : client.main = .constructed ∨ client.main = .waiting ∨ client.main = .woken ∨
    client.main = .waited
  silent : ∀ rpc ∈ client.rpcs, rpc.stage = .unlocking ∨ rpc.stage = .returning

/-- Nothing is sent any more. -/
theorem Quiet.step (quiet : client.Quiet) (step : Step client next) :
    next.Quiet ∧ next.sent = client.sent := by
  obtain ⟨thread, keepRunning, address, step⟩ := step
  obtain ⟨main, silent⟩ := quiet
  cases thread with
  | main =>
    simp only [stepThread, stepMain] at step
    rcases main with at_ | at_ | at_ | at_
    · rw [at_] at step
      cases step
      exact ⟨⟨.inr (.inl rfl), silent⟩, rfl⟩
    · rw [at_] at step
      dsimp only at step
      split at step
      · cases step
        exact ⟨⟨.inr (.inr (.inl rfl)), silent⟩, rfl⟩
      · cases step
    · rw [at_] at step
      cases step
      exact ⟨⟨.inr (.inr (.inr rfl)), silent⟩, rfl⟩
    · rw [at_] at step
      cases step
      exact ⟨⟨.inr (.inl rfl), silent⟩, rfl⟩
  | callback i =>
    obtain ⟨rpc, found, step⟩ := Option.bind_eq_some_iff.mp step
    rcases silent rpc (List.mem_of_getElem? found) with stage | stage
    · rw [stage] at step
      cases step
      refine ⟨⟨main, fun other member => ?_⟩, rfl⟩
      rcases List.mem_or_eq_of_mem_set member with old | rfl
      · exact silent other old
      · exact Or.inr rfl
    · rw [stage] at step
      cases step
      exact ⟨⟨main, fun other member => silent other (List.mem_of_mem_eraseIdx member)⟩, rfl⟩

theorem Quiet.run (quiet : client.Quiet) (run : Relation.ReflTransGen Step client next) :
    next.Quiet ∧ next.sent = client.sent := by
  induction run with
  | refl => exact ⟨quiet, rfl⟩
  | tail _ last inductionHypothesis =>
    obtain ⟨still, same⟩ := inductionHypothesis.1.step last
    exact ⟨still, same.trans inductionHypothesis.2⟩

/-- `Wait` wakes up, or has returned, only when every stream is done. -/
def Done (client : GRPCClient) : Prop :=
  client.main = .woken ∨ client.main = .waited → client.Quiet

theorem Accounted.quiet_of_woken (accounted : client.Accounted limit) {keepRunning : Bool}
    {address : Nat} (waiting : client.main = .waiting)
    (step : client.stepMain keepRunning address = some next) : next.Quiet := by
  unfold GRPCClient.stepMain at step
  rw [waiting] at step
  dsimp only at step
  split at step
  · rename_i free
    cases step
    have counted := accounted.counted
    rw [waiting, free.2] at counted
    have none_ : client.unfinished = [] := List.eq_nil_of_length_eq_zero counted.symm
    refine ⟨.inr (.inr (.inl rfl)), fun rpc member => ?_⟩
    have streams := accounted.streams
    rw [none_] at streams
    have idle : rpc.stage.carries = false := by
      cases carries : rpc.stage.carries with
      | false => rfl
      | true =>
        have carried : rpc.stream ∈ carriedStreams client.rpcs :=
          List.mem_map_of_mem (List.mem_filter.mpr ⟨member, carries⟩)
        exact absurd (streams.mem_iff.mp carried) List.not_mem_nil
    cases stage : rpc.stage with
    | unlocking => exact Or.inl rfl
    | returning => exact Or.inr rfl
    | _ =>
      rw [stage] at idle
      cases idle
  · cases step

theorem stepCallback_main {i : Nat} {keepRunning : Bool} {address : Nat}
    (step : client.stepCallback i keepRunning address = some next) : next.main = client.main := by
  obtain ⟨rpc, _, step⟩ := Option.bind_eq_some_iff.mp step
  cases stage : rpc.stage with
  | sending =>
    rw [stage] at step
    obtain ⟨_, _, rfl⟩ := sendOneRPC_eq step
    rfl
  | marking =>
    rw [stage] at step
    dsimp only at step
    split at step
    · cases step
      rfl
    · cases step
  | _ =>
    rw [stage] at step
    cases step
    rfl

/-- Only from `Wait` does a step lead to where `Wait` has been woken. -/
theorem main_of_woken {keepRunning : Bool} {address : Nat}
    (step : client.stepMain keepRunning address = some next)
    (woken : next.main = .woken ∨ next.main = .waited) :
    client.main = .waiting ∨ client.main = .woken ∨ client.main = .waited := by
  unfold GRPCClient.stepMain at step
  cases main : client.main with
  | looping todo =>
    rw [main] at step
    cases todo with
    | nil =>
      cases step
      rcases woken with impossible | impossible <;> cases impossible
    | cons stub todo =>
      cases step
      cases keepRunning with
      | true => rcases woken with impossible | impossible <;> cases impossible
      | false => rcases woken with impossible | impossible <;> cases impossible
  | locking stub todo =>
    rw [main] at step
    dsimp only at step
    split at step
    · cases step
      rcases woken with impossible | impossible <;> cases impossible
    · cases step
  | sending stub todo =>
    rw [main] at step
    obtain ⟨between, _, rfl⟩ := Option.map_eq_some_iff.mp step
    rcases woken with impossible | impossible <;> cases impossible
  | counting todo | unlocking todo | constructed =>
    rw [main] at step
    cases step
    rcases woken with impossible | impossible <;> cases impossible
  | waiting => exact Or.inl rfl
  | woken => exact Or.inr (Or.inl rfl)
  | waited => exact Or.inr (Or.inr rfl)

theorem done_step (accounted : client.Accounted limit) (done : client.Done)
    (step : Step client next) : next.Done := by
  intro woken
  have taken := step
  obtain ⟨thread, keepRunning, address, taken⟩ := taken
  cases thread with
  | main =>
    rcases main_of_woken taken woken with waiting | before
    · exact accounted.quiet_of_woken waiting taken
    · exact ((done before).step step).1
  | callback i =>
    rw [stepCallback_main taken] at woken
    exact ((done woken).step step).1

theorem done_reachable {opts : GRPCClientOptions}
    (run : Relation.ReflTransGen Step (start opts) client) : client.Done := by
  induction run with
  | refl =>
    intro woken
    rcases woken with impossible | impossible <;> cases impossible
  | tail before last inductionHypothesis =>
    exact done_step (accounted_reachable before) inductionHypothesis last

/-- In every run the counter is above zero where it is decremented, is the number of unfinished
streams whenever the mutex is free, and bounds the RPCs of every stub; behind `Wait` no RPC is
outstanding and none is ever sent. -/
theorem inflight_reachable {opts : GRPCClientOptions} {client : GRPCClient}
    (run : Relation.ReflTransGen Step (start opts) client) :
    (∀ rpc ∈ client.rpcs, rpc.stage = .decrementing → 0 < client.inflightRpcsCount) ∧
      (client.inflightRpcsMtx = none →
        client.inflightRpcsCount = client.unfinished.length) ∧
      (∀ stub, client.outstanding stub ≤ opts.maxOutstandingRpcs.toNat) ∧
      (client.main = .waited → ∀ later, Relation.ReflTransGen Step client later →
        (∀ stub, later.outstanding stub = 0) ∧ later.sent = client.sent) := by
  have accounted := accounted_reachable run
  refine ⟨fun rpc member stage => (accounted.count_pos member stage).1, fun free => ?_,
    accounted.outstanding_le, fun waited later run' => ?_⟩
  · have counted := accounted.counted
    have notHolding : client.main.holds = false := by
      cases holds : client.main.holds with
      | false => rfl
      | true => cases free.symm.trans (accounted.mutexMain.mpr holds)
    rw [uncounted_of_not_holds notHolding] at counted
    exact counted
  · obtain ⟨quiet, same⟩ := (done_reachable run (.inr waited)).run run'
    refine ⟨fun stub => List.countP_eq_zero.mpr fun rpc member wanted => ?_, same⟩
    rcases quiet.silent rpc member with stage | stage
    · cases stage.symm.trans (of_decide_eq_true wanted).1
    · cases stage.symm.trans (of_decide_eq_true wanted).1

/-! ### A run with two streams -/

/-- Steps by their thread, the answer of `keep_running_` and a free address. -/
def runThreads : List (Thread × Bool × Nat) → GRPCClient → Option GRPCClient
  | [], client => some client
  | (thread, keepRunning, address) :: rest, client =>
    (client.stepThread thread keepRunning address).bind (runThreads rest)

theorem steps_of_runThreads {threads : List (Thread × Bool × Nat)}
    (ran : runThreads threads client = some next) : Relation.ReflTransGen Step client next := by
  induction threads generalizing client with
  | nil =>
    cases ran
    exact .refl
  | cons first rest inductionHypothesis =>
    obtain ⟨between, step, ran⟩ := Option.bind_eq_some_iff.mp ran
    exact .head ⟨_, _, _, step⟩ (inductionHypothesis ran)

/-- Two peers, of which one is skipped, with up to two RPCs. -/
def twoOutstanding : GRPCClientOptions where
  peers := ["localhost:1", "server:1"]
  connectionsPerPeer := 1
  maxOutstandingRpcs := 2
  skipLoopback := true

/-- The first stream ends before it is counted and again sends an RPC; the second is started
after the counter went back to zero. -/
def twoStreams : List (Thread × Bool × Nat) :=
  [(.main, true, 0), (.main, true, 0), (.main, true, 1), (.callback 0, true, 0),
    (.callback 0, true, 0), (.callback 0, true, 2), (.callback 1, true, 0),
    (.callback 1, false, 0), (.main, true, 0), (.main, true, 0), (.callback 1, true, 0),
    (.callback 1, true, 0), (.callback 1, true, 0), (.main, true, 0), (.main, true, 0),
    (.main, true, 3), (.main, true, 0), (.main, true, 0), (.callback 2, true, 0),
    (.callback 2, false, 0), (.main, true, 0), (.main, true, 0), (.callback 2, true, 0),
    (.callback 2, true, 0), (.callback 2, true, 0), (.main, true, 0), (.main, true, 0)]

theorem inflight_twoStreams :
    ∃ client, Relation.ReflTransGen Step (start twoOutstanding) client ∧
      client.main = .waited ∧ client.sent = 3 ∧
      ∀ later, Relation.ReflTransGen Step client later →
        (∀ stub, later.outstanding stub = 0) ∧ later.sent = client.sent := by
  have ran : (runThreads twoStreams (start twoOutstanding)).map (fun client =>
      (client.main, client.sent)) = some (.waited, 3) := by
    decide +kernel
  obtain ⟨client, ran, values⟩ := Option.map_eq_some_iff.mp ran
  obtain ⟨waited, sent⟩ := Prod.mk.inj values
  have run := steps_of_runThreads ran
  exact ⟨client, run, waited, sent, (inflight_reachable run).2.2.2 waited⟩

end GRPCClient

end Fleetbench.Rpc
