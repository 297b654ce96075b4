import ChainRelay.Text.Numeral
import ChainRelay.Worker.Basic
import ChainRelay.WorkItem.Lifecycle

/-!
# Outbound transactions

Gateway and refund transactions are sent one by one. What is in flight is resolved first; a
failing collaborator costs one warning and leaves the item for later. The first transaction of an
item costs no retry, each one that replaces a failed one does.
-/

namespace ChainRelay.Relayer

variable {σ τ : Type}

/-- The logger of this worker. -/
def outboundLogger : String := "relayer.processor.stacks_transaction"

/-- A log line about an item. -/
def outboundLine (level : LogLevel) (item : WorkItem) (message : String) : LogLine where
  level := level
  logger := outboundLogger
  message := message
  context := [("natural_key", .str item.key)]

/-- Tell the operators why an item is given up, and fail it. -/
def failOutbound (r : Relayer σ) (item : WorkItem) (reason : String) : Work σ τ WorkItem := do
  let message := "Could not execute transaction " ++ shownText item.txHash ++ " for task " ++
    item.key ++ ": " ++ reason
  Work.log (outboundLine .error item message)
  r.notifySafely .error "StacksTransaction error" message
  return { item with status := .failed }

/-- Why a refund cannot be paid, if it cannot. -/
def refundObstacle (r : Relayer σ) (refund : Refund) : Work σ τ (Option String) := do
  match Text.toInt? refund.amount with
  | none => return some ("invalid refund amount " ++ Text.quoted refund.amount)
  | some needed =>
    let account := r.settings.gasService
    let balance ← Work.ask (r.collaborators.chain.balance account) (.balanceRead account)
    match balance.of? refund.tokenId with
    | none => Work.fail (.wrongKind
        ("unhashable type: \x27" ++ refund.tokenId.kind.word ++ "\x27"))
    | some available =>
      if available < needed then
        return some ("Insufficient balance for token " ++
          (refund.tokenId.orElse (.str "STX")).shown ++ " in gas service contract " ++ account ++
          ". Needed " ++ toString needed ++ ", but balance is " ++ toString available)
      else return none

/-- Why an item cannot be sent at all, if it cannot. -/
def outboundObstacle (r : Relayer σ) (item : WorkItem) : Work σ τ (Option String) :=
  match item.payload with
  | .gateway executeData =>
    return if executeData = "" then some "GATEWAY transaction without execute data" else none
  | .refund refund => r.refundObstacle refund
  | payload => return some ("unknown payload kind " ++ payload.kind)

/-- Send a built transaction for an item. -/
def sendBuilt (r : Relayer σ) (item : WorkItem) (transaction : SignedTransaction) :
    Work σ τ WorkItem := do
  let result ← Work.ask (r.collaborators.outbound.send transaction) (.sent transaction)
  if result.success then
    let answered := result.txHash.getD ""
    let txHash := if answered = "" then transaction.txId else answered
    Work.log (outboundLine .info item ("sent transaction " ++ txHash))
    let retry := if item.txHash.isSome then item.retry + 1 else item.retry
    return { item with txHash := some txHash, retry }
  else
    Work.fail (.dependency ("transaction " ++ transaction.txId ++ " was not accepted: " ++
      shownText result.error))

/-- Build a transaction for an item and send it. -/
def buildOutbound (r : Relayer σ) (item : WorkItem) : Work σ τ WorkItem := do
  let outcome ← Work.ask (r.collaborators.outbound.build item) (.built item)
  match outcome.kind? with
  | none => Work.fail (.invariant ("unknown build outcome kind: " ++ outcome.kind))
  | some .recoverable =>
    Work.log (outboundLine .warning item
      ("could not build transaction: " ++ outcome.detail.shown))
    Work.ask (r.collaborators.outbound.invalidate item) (.invalidated item)
    return { item with retry := item.retry + 1, txHash := none }
  | some .insufficientBalance =>
    r.failOutbound item (outcome.detail.orElse (.str "insufficient balance")).shown
  | some .invalidPayload =>
    r.failOutbound item (outcome.detail.orElse (.str "invalid payload")).shown
  | some .built =>
    match outcome.transaction with
    | none => Work.fail (.invariant "built outcome without transaction")
    | some transaction => r.sendBuilt item transaction

/-- Build and send a transaction for an item, unless it cannot be sent at all. -/
def sendOutbound (r : Relayer σ) (item : WorkItem) : Work σ τ WorkItem := do
  match ← r.outboundObstacle item with
  | some reason => r.failOutbound item reason
  | none => r.buildOutbound item

/-- Work on an item with nothing in flight. -/
def outboundFresh (r : Relayer σ) (item : WorkItem) : Work σ τ (Option WorkItem) := do
  if ceilingReached item.retry retryCeiling then
    return some (← r.failOutbound item ("after " ++ toString item.retry ++ " retries"))
  else return some (← r.sendOutbound item)

/-- Go on with an item whose transaction in flight was resolved. -/
def outboundResolved (r : Relayer σ) (item : WorkItem) (txHash : String) :
    Confirmation → Work σ τ (Option WorkItem)
  | .pending | .errored => return none
  | .confirmed => do
    Work.log (outboundLine .info item
      ("transaction " ++ txHash ++ " was successfully executed"))
    return some { item with status := .success }
  | .failed | .timedOut => r.outboundFresh item

/-- Resolve what is in flight for an item, and go on with it if that has failed. -/
def advanceOutbound (r : Relayer σ) (item : WorkItem) : Work σ τ (Option WorkItem) := do
  match item.txHash with
  | none => r.outboundFresh item
  | some txHash =>
    let sentAt := item.updatedAt.getD (← Work.now)
    r.outboundResolved item txHash (← r.resolveTransaction outboundLogger txHash sentAt)

/-- Work on one item: a failing collaborator is reported and the item is left alone. -/
def outboundItem (r : Relayer σ) (item : WorkItem) : Work σ τ (Option WorkItem) := do
  match ← Work.attempt (r.advanceOutbound item) with
  | .ok result => return result
  | .error fault =>
    if fault.isDependency then
      Work.log (outboundLine .warning item
        ("error while processing stacks transaction, will be retried: " ++ fault.message))
      r.notifySafely .warn "Stacks transaction processing error"
        ("An error occurred while processing StacksTransaction with id " ++ item.key ++
          ". Will be retried")
      return none
    else Work.fail fault

/-- Work on a batch. -/
def outboundBatch (r : Relayer σ) (items : List WorkItem) : Work σ τ (List WorkItem) := do
  let results ← items.mapM r.outboundItem
  return results.filterMap id

end ChainRelay.Relayer
