import ChainRelay.Worker.Basic
import ChainRelay.World.Queue

/-!
# Polling the events of contracts

The events of a contract are read newest first, page by page, until the last event that was
processed before is met or there are no more. The transactions of the new events become work
items, and the newest event becomes the cursor.

## Implementation notes

A source may never run out of pages, so their number is bounded by `Relayer.pageLimit`.
-/

namespace ChainRelay.Relayer

variable {σ τ : Type}

/-- The logger of this worker. -/
def eventLogger : String := "relayer.poller.events"

/-- The events on a page that come before the last processed one. -/
def newerThan (last : Option String) (page : List ContractEvent) : List ContractEvent :=
  page.takeWhile fun event => some event.id != last

/-- Read pages from `offset` on and return their new events, newest first. -/
def readPages (r : Relayer σ) (contract : String) (last : Option String) (size : Int) :
    Nat → Int → Work σ τ (List ContractEvent)
  | 0, _ => Work.giveUp
  | pages + 1, offset => do
    let page ← Work.ask (r.collaborators.chain.events contract offset size)
      (.eventsRead contract offset size)
    let fresh := newerThan last page
    if page.isEmpty || fresh.length < page.length || (page.length : Int) < size then return fresh
    else
      let older ← readPages r contract last size pages (offset + page.length)
      return fresh ++ older

/-- The events of a contract that are newer than the last processed one, oldest first. -/
def newEvents (r : Relayer σ) (contract : String) (last : Option String) (size : Int) :
    Work σ τ (List ContractEvent) := do
  let events ← r.readPages contract last size r.pageLimit 0
  return events.reverse

/-- The name of a contract's cursor. -/
def eventCursor (name : String) : String := "lastProcessedEvent:" ++ name

/-- The type of the events that are relayed. -/
def relayedType : String := "smart_contract_log"

/-- The transactions of relayed events, each once, in order. -/
def relayedTransactions (events : List ContractEvent) : List String :=
  ((events.filter fun e => e.type == relayedType).map ContractEvent.txId).eraseDups

/-- The work item of a transaction seen on the chain. -/
def seenTransaction (txHash : String) : WorkItem where
  family := .crossChainTransaction
  key := txHash
  payload := .crossChain txHash

/-- How many events are asked for at once. -/
def eventPageSize : Int := 50

/-- Poll one contract and count its new events. -/
def pollContract (r : Relayer σ) (name contract : String) : Work σ τ Nat := do
  let last ← Work.cursor? (eventCursor name)
  let events ← r.newEvents contract last eventPageSize
  match events.getLast? with
  | none => return 0
  | some newest =>
    let _ ← Work.upsertAll ((relayedTransactions events).map seenTransaction)
    Work.setCursor (eventCursor name) newest.id
    Work.log {
      level := .info, logger := eventLogger
      message := "processed " ++ toString events.length ++ " new events for " ++ name ++
        ", cursor at " ++ newest.id
      context := [("job", .str "pollEvents")] }
    return events.length

/-- Poll contracts, one after the other, and count the new events. -/
def pollContracts (r : Relayer σ) : List (String × String) → Work σ τ Nat
  | [] => return 0
  | (name, contract) :: rest => do
    let count ← r.pollContract name contract
    let others ← pollContracts r rest
    return count + others

/-- Poll all watched contracts. -/
def pollEvents (r : Relayer σ) : Work σ τ Nat := r.pollContracts r.settings.watched

end ChainRelay.Relayer
