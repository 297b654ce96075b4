import ChainRelay.World.Collaborators

/-!
# Collaborators without a network

A chain, a hub, executors, a decoder and a sink for notifications that live in memory. They answer
from tables, and any answer can be replaced by a fault. Builds succeed and events are accepted
unless a table says otherwise.
-/

namespace ChainRelay

/-- A table by name. -/
abbrev Table (α : Type) := List (String × α)

namespace Table

/-- Set an entry: a known name keeps its place. -/
def put {α : Type} : Table α → String → α → Table α
  | [], name, value => [(name, value)]
  | (n, v) :: rest, name, value =>
    if n = name then (n, value) :: rest else (n, v) :: put rest name value

/-- Remove an entry. -/
def remove {α : Type} (t : Table α) (name : String) : Table α := t.filter fun e => e.1 != name

/-- Set an entry, or remove it. -/
def change {α : Type} (t : Table α) (name : String) : Option α → Table α
  | some value => t.put name value
  | none => t.remove name

end Table

/-- The part of a list between two positions; negative ones count from its end. -/
def window {α : Type} (xs : List α) (start stop : Int) : List α :=
  let place (i : Int) : Nat := (if i < 0 then i + xs.length else i).toNat
  (xs.take (place stop)).drop (place start)

/-- The answer to an event of a post; its index is the event's own unless it is given. -/
structure EventVerdict where
  index : Option Int := none
  accepted : Bool := true
  error : Json := .null
  retriable : Bool := false
  deriving Inhabited

/-- The state of collaborators in memory. -/
structure Simulation where
  transactions : Table ChainTransaction := []
  balances : Table AccountBalance := []
  /-- The events of each contract, newest first. -/
  events : Table (List ContractEvent) := []
  chainDown : Bool := false
  transactionFault : Option Fault := none
  balanceFault : Option Fault := none
  eventsFault : Option Fault := none
  outcomes : Table BuildOutcome := []
  buildFaults : Table Fault := []
  failingSends : List String := []
  sendResults : Table SendResult := []
  sendFaults : Table Fault := []
  invalidateFaults : Table Fault := []
  tasks : List HubTask := []
  /-- The fault of every question for tasks after so many more. -/
  tasksFault : Option (Nat × Fault) := none
  /-- The answers to the events of a post; the last one also answers all further events. -/
  verdicts : Option (List EventVerdict) := none
  /-- The whole answer to a post. -/
  postAnswer : Option (List EventResult) := none
  postFault : Option Fault := none
  statuses : Table BroadcastStatus := []
  broadcastsFail : Bool := false
  /-- How many broadcasts have been made. -/
  broadcasts : Nat := 0
  decoded : Table (List Json) := []
  decodeFaults : Table Fault := []
  notifierFails : Bool := false
  deriving Inhabited

namespace Simulation

/-- Answer with a fault, if there is one. -/
def orFault {α : Type} (fault : Option Fault) (value : Except Fault α) : Except Fault α :=
  match fault with
  | some f => .error f
  | none => value

/-- The chain. -/
def chain : ChainSource Simulation where
  transaction hash := fun s =>
    let known : Except Fault (Option ChainTransaction) :=
      if s.chainDown then .error (.dependency "chain api unavailable")
      else .ok (s.transactions.lookup hash)
    (orFault s.transactionFault known, s)
  balance account := fun s =>
    (orFault s.balanceFault (.ok ((s.balances.lookup account).getD { stx := 0 })), s)
  events contract offset limit := fun s =>
    let known := (s.events.lookup contract).getD []
    (orFault s.eventsFault (.ok (window known offset (offset + limit))), s)

/-- The tasks after a given one: none if that is unknown. -/
def tasksAfter (tasks : List HubTask) : Option String → Nat
  | none => 0
  | some id =>
    match tasks.findIdx? fun t => t.id == id with
    | some i => i + 1
    | none => tasks.length

/-- The result of the event at a place in a post. -/
def verdictAt (verdicts : List EventVerdict) (place : Nat) : EventResult :=
  match verdicts[min place (verdicts.length - 1)]? with
  | none => { index := place, accepted := true }
  | some v => ⟨v.index.getD place, v.accepted, v.error, v.retriable⟩

/-- The results of a post. -/
def postResults (s : Simulation) (events : List Json) : List EventResult :=
  match s.postAnswer with
  | some results => results
  | none =>
    (List.range events.length).map fun place => verdictAt (s.verdicts.getD []) place

/-- The hub. -/
def hub : Hub Simulation where
  tasks _ after limit := fun s =>
    match s.tasksFault with
    | some (0, fault) => (.error fault, s)
    | pending =>
      let start : Int := tasksAfter s.tasks after
      (.ok (window s.tasks start (start + limit)),
        { s with tasksFault := pending.map fun p => (p.1 - 1, p.2) })
  post events _ := fun s => (orFault s.postFault (.ok (s.postResults events)), s)
  broadcast _ _ := fun s =>
    if s.broadcastsFail then (.error (.dependency "hub broadcast unavailable"), s)
    else
      let id := "broadcast-" ++ toString (s.broadcasts + 1)
      let statuses := if (s.statuses.lookup id).isSome then s.statuses
        else s.statuses.put id .received
      (.ok id, { s with broadcasts := s.broadcasts + 1, statuses })
  status broadcast _ := fun s =>
    match s.statuses.lookup broadcast with
    | some status => (.ok status, s)
    | none => (.error (.dependency ("unknown broadcast " ++ broadcast)), s)

/-- The outcome of a build that nothing was said about. -/
def plainBuild (item : WorkItem) : BuildOutcome :=
  let txId := "0x" ++ item.key ++ "-" ++ toString item.retry
  { kind := BuildKind.built.word
    transaction := some { txId, serialized := "signed:" ++ txId } }

/-- The executor. -/
def executor : Executor Simulation where
  build item := fun s =>
    (orFault (s.buildFaults.lookup item.key)
      (.ok ((s.outcomes.lookup item.key).getD (plainBuild item))), s)
  send tx := fun s =>
    let plain : SendResult :=
      if s.failingSends.contains tx.txId then
        { success := false, error := some "transaction rejected" }
      else { success := true, txHash := some tx.txId }
    (orFault (s.sendFaults.lookup tx.txId) (.ok ((s.sendResults.lookup tx.txId).getD plain)), s)
  invalidate item := fun s => (orFault (s.invalidateFaults.lookup item.key) (.ok ()), s)

/-- All collaborators in memory. -/
def collaborators : Collaborators Simulation where
  chain := chain
  hub := hub
  messages := executor
  outbound := executor
  decode tx := fun s =>
    (orFault (s.decodeFaults.lookup tx.txHash) (.ok ((s.decoded.lookup tx.txHash).getD [])), s)
  notify _ _ _ := fun s =>
    (if s.notifierFails then .error (.dependency "notification sink unavailable") else .ok (), s)

end Simulation

end ChainRelay
