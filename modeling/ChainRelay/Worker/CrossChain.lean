import ChainRelay.Worker.Publish

/-!
# Relaying events of the chain to the hub

Each transaction that was seen on the chain is looked up. Once it has succeeded its events are
published; once it has failed there is nothing to relay. A failing collaborator costs one warning
and leaves the item for later.
-/

namespace ChainRelay.Relayer

variable {σ τ : Type}

/-- The logger of this worker. -/
def crossChainLogger : String := "relayer.processor.cross_chain_transaction"

/-- Relay the events of one transaction. There is no result while it is pending. -/
def relayEvents (r : Relayer σ) (item : WorkItem) : Work σ τ (Option WorkItem) := do
  match ← r.lookUp item.key with
  | none => return none
  | some transaction =>
    let context : Fields := [("natural_key", .str item.key)]
    match transaction.status with
    | .pending => return none
    | .success =>
      let events ← Work.ask (r.collaborators.decode transaction) (.decoded transaction)
      r.publish events item.key true
      Work.log {
        level := .info, logger := crossChainLogger, context
        message := "relayed " ++ toString events.length ++ " events" }
    | .failed =>
      Work.log {
        level := .info, logger := crossChainLogger, context
        message := "transaction failed on chain, nothing to relay" }
    return some { item with status := .success }

/-- Work on one item: a failing collaborator is reported and the item is left alone. -/
def crossChainItem (r : Relayer σ) (item : WorkItem) : Work σ τ (Option WorkItem) := do
  match ← Work.attempt (r.relayEvents item) with
  | .ok result => return result
  | .error fault =>
    if fault.isDependency then
      Work.log {
        level := .warning, logger := crossChainLogger
        message := "error while processing cross chain transaction, will be retried: " ++
          fault.message
        context := [("natural_key", .str item.key)] }
      r.notifySafely .warn "Cross chain transaction processing error"
        ("An error occurred while processing cross chain transaction " ++ item.key ++
          ". Will be retried")
      return none
    else Work.fail fault

/-- Work on a batch. -/
def crossChainBatch (r : Relayer σ) (items : List WorkItem) : Work σ τ (List WorkItem) := do
  Work.log {
    level := .info, logger := crossChainLogger
    message := "found " ++ toString items.length ++ " cross chain transactions to query"
    context := [("family", .str "cross_chain_transaction")] }
  let results ← items.mapM r.crossChainItem
  return results.filterMap id

end ChainRelay.Relayer
