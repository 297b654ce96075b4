import ChainRelay.Report.Exchange
import ChainRelay.Report.Item
import ChainRelay.World.Simulation

/-!
# Setting up a simulation

What the collaborators in memory know and how they answer is set member by member. Tables are
merged with what was set before, and a `null` entry removes the old one.
-/

namespace ChainRelay

open Json.Options

/-- How an event is answered, as a report gives it. -/
def EventVerdict.ofReport (given : Json) : EventVerdict :=
  { index := (given? given "index").map wholeOf
    accepted := text given "status" "ACCEPTED" == "ACCEPTED"
    error := field given "error", retriable := flag given "retriable" false }

/-- The answer to the event at a place, as a report gives it. -/
def EventResult.ofReport (place : Nat) (given : Json) : EventResult :=
  let verdict := EventVerdict.ofReport given
  ⟨verdict.index.getD place, verdict.accepted, verdict.error, verdict.retriable⟩

/-- A value unless it is `null`. -/
def unlessNull {α : Type} (f : Json → α) : Json → Option α
  | .null => none
  | value => some (f value)

/-- Merge entries into a table. -/
def Table.merge {α : Type} (t : Table α) (entries : Fields) (f : String → Json → Option α) :
    Table α :=
  entries.foldl (fun t e => t.change e.1 (if e.2.isNull then none else f e.1 e.2)) t

namespace Simulation

/-- Set the faults of the chain. -/
def setChainFault (s : Simulation) (question : String) (given : Json) : Simulation :=
  let fault := unlessNull Fault.ofReport given
  match question with
  | "transaction" => { s with transactionFault := fault }
  | "balance" => { s with balanceFault := fault }
  | _ => { s with eventsFault := fault }

/-- Check the words for a status among the entries of a member. -/
def checkWords (name : String) (given : Json) : Except Fault Unit :=
  let isKnown (word : String) : Bool := match name with
    | "transactions" => (TransactionStatus.ofWord? word).isSome
    | "broadcast_statuses" => (BroadcastStatus.ofWord? word).isSome
    | _ => true
  (membersOf given).forM fun e =>
    if e.2.isNull || isKnown e.2.shown then .ok () else .error (.badValue "unknown status")

/-- Set one member. -/
def configure (s : Simulation) (name : String) (given : Json) : Simulation :=
  let entries := membersOf given
  let faults (old : Table Fault) : Table Fault :=
    old.merge entries fun _ f => some (Fault.ofReport f)
  match name with
  | "transactions" =>
    let transactions := s.transactions.merge entries fun txHash word =>
      (TransactionStatus.ofWord? word.shown).map fun status => { txHash, status }
    { s with transactions }
  | "balances" =>
    { s with balances := s.balances.merge entries fun _ b => some (AccountBalance.ofReport b) }
  | "events" =>
    let events := s.events.merge entries fun contract log =>
      some ((itemsOf log).map (ContractEvent.ofReport contract))
    { s with events }
  | "chain_down" => { s with chainDown := given.truthy }
  | "chain_errors" => entries.foldl (fun s e => s.setChainFault e.1 e.2) s
  | "outcomes" =>
    { s with outcomes := s.outcomes.merge entries fun _ o => some (BuildOutcome.ofReport o) }
  | "raise_on_build" => { s with buildFaults := faults s.buildFaults }
  | "failing_sends" =>
    { s with failingSends := s.failingSends ++ (itemsOf given).map Json.shown }
  | "send_results" =>
    { s with sendResults := s.sendResults.merge entries fun _ r => some (SendResult.ofReport r) }
  | "raise_on_send" => { s with sendFaults := faults s.sendFaults }
  | "raise_on_invalidate" => { s with invalidateFaults := faults s.invalidateFaults }
  | "tasks" => { s with tasks := (itemsOf given).map HubTask.ofReport }
  | "tasks_fail" =>
    let tasksFault := unlessNull (fun g =>
      ((number g "after" 0).toNat, Fault.ofReport (field g "error"))) given
    { s with tasksFault }
  | "event_results" =>
    let verdicts := unlessNull (fun g => (itemsOf g).map EventVerdict.ofReport) given
    { s with verdicts }
  | "raw_results" =>
    let postAnswer := unlessNull (fun g =>
      (itemsOf g).zipIdx.map fun p => EventResult.ofReport p.2 p.1) given
    { s with postAnswer }
  | "post_fail" => { s with postFault := unlessNull Fault.ofReport given }
  | "broadcast_statuses" =>
    let statuses := s.statuses.merge entries fun _ word => BroadcastStatus.ofWord? word.shown
    { s with statuses }
  | "fail_broadcasts" => { s with broadcastsFail := given.truthy }
  | "decoded" =>
    { s with decoded := s.decoded.merge entries fun _ events => some (itemsOf events) }
  | "decode_errors" => { s with decodeFaults := faults s.decodeFaults }
  | "notifier_fail" => { s with notifierFails := given.truthy }
  | _ => s

end Simulation

end ChainRelay
