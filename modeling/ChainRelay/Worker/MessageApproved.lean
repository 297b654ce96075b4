import ChainRelay.Worker.Publish
import ChainRelay.WorkItem.Lifecycle

/-!
# Executing approved messages

A batch is worked off in two passes. First each item is decided: left alone while its transaction
is in flight, settled, or made into an attempt with a built transaction. Then the transactions of
the attempts are sent in the order of the claim.

## The submission contract

A rejected transaction costs its item a retry and its handle. With ordered submission the items
after it are left alone, as their transactions were signed with later nonces.

An item with continuation state is a multi-step execution: a confirmed step hands it back to the
executor instead of completing it.
-/

namespace ChainRelay

/-- A built transaction with the item as it will be once the transaction is accepted. -/
structure Attempt where
  advanced : WorkItem
  transaction : SignedTransaction
  claimedRetry : Int

/-- The item of an attempt whose transaction was accepted: it holds the hash that was answered. -/
def Attempt.accepted (a : Attempt) (result : SendResult) : WorkItem :=
  match result.txHash with
  | some hash => if hash = "" then a.advanced else { a.advanced with txHash := some hash }
  | none => a.advanced

/-- The item of an attempt whose transaction was rejected: no handle, and at least one retry
more than when it was claimed. -/
def Attempt.rejected (a : Attempt) : WorkItem :=
  { a.advanced with txHash := none, retry := max a.advanced.retry (a.claimedRetry + 1) }

/-- What becomes of an item in the first pass. -/
inductive Decision where
  | leave
  | settle (item : WorkItem)
  | submit (attempt : Attempt)

namespace Decision

/-- The settled item. -/
def settled? : Decision → Option WorkItem
  | settle item => some item
  | _ => none

/-- The attempt. -/
def attempt? : Decision → Option Attempt
  | submit attempt => some attempt
  | _ => none

end Decision

/-- Whether an item is a multi-step execution with steps to come. -/
def WorkItem.hasContinuation (item : WorkItem) : Bool :=
  match item.payload with
  | .message m => match m.extra with
    | .null => false
    | _ => true
  | _ => false

/-- How an item is described to operators. -/
def WorkItem.description (item : WorkItem) : String :=
  match item.payload with
  | .message m => "from " ++ m.sourceChain ++ " with message id " ++ m.messageId
  | _ => "with key " ++ item.key

namespace Relayer

variable {σ τ : Type}

/-- The logger of this worker. -/
def messageLogger : String := "relayer.processor.message_approved"

/-- A log line about an item. -/
def itemLine (logger : String) (level : LogLevel) (item : WorkItem) (message : String) :
    LogLine where
  level := level
  logger := logger
  message := message
  context := [("natural_key", .str item.key)]

/-- Tell the operators that an item has no payload to execute, and fail it. -/
def failInvalid (r : Relayer σ) (item : WorkItem) (detail : String) : Work σ τ WorkItem := do
  Work.log (itemLine messageLogger .error item
    ("can not send transaction " ++ item.description ++ ": " ++ detail))
  r.notifySafely .error "Message approved payload error"
    ("Can not send transaction without valid payload " ++ item.description ++ ": " ++ detail)
  return { item with status := .failed }

/-- The event that tells the hub that a message cannot be executed. -/
def cannotExecuteEvent (item : WorkItem) (m : Message) (sourceChain : String)
    (reason : CannotExecute) : Json :=
  .obj [
    ("type", .str "CANNOT_EXECUTE_MESSAGE/V2"),
    ("eventID", .str m.messageId),
    ("messageID", .str m.messageId),
    ("sourceChain", .str sourceChain),
    ("reason", .str reason.word),
    ("details", .str ("retried " ++ toString item.retry ++ " times")),
    ("meta", .obj [
      ("txID", Json.ofText? item.txHash),
      ("taskItemID", m.taskItemId.orElse (.str ""))])]

/-- Tell the operators that an item is given up. For want of gas this is only a warning. -/
def reportGivenUp (r : Relayer σ) (item : WorkItem) (reason : CannotExecute) : Work σ τ Unit := do
  let message := "Could not execute MessageApproved " ++ item.description ++ " after " ++
    toString item.retry ++ " retries, " ++ reason.word
  match reason with
  | .insufficientGas =>
    Work.log (itemLine messageLogger .warning item message)
    r.notifySafely .warn "Message approved failed" message
  | .error =>
    Work.log (itemLine messageLogger .error item message)
    r.notifySafely .error "Message approved failed" message

/-- Tell the hub that a message is given up. A hub that does not take the event is only reported. -/
def tellHub (r : Relayer σ) (item : WorkItem) (reason : CannotExecute) : Work σ τ Unit := do
  match item.payload with
  | .message m =>
    let event := cannotExecuteEvent item m r.settings.sourceChain reason
    match ← Work.attempt (r.publish [event] (item.txHash.getD "") false) with
    | .ok () => pure ()
    | .error fault =>
      if fault.isDependency then
        Work.log { itemLine messageLogger .warning item
          "could not send cannot-execute event to the hub" with fault := some fault }
      else Work.fail fault
  | _ => pure ()

/-- Tell the operators and the hub that an item is given up, and fail it. -/
def failTerminal (r : Relayer σ) (item : WorkItem) (reason : CannotExecute) :
    Work σ τ WorkItem := do
  r.reportGivenUp item reason
  r.tellHub item reason
  return { item with status := .failed }

/-! ### The first pass -/

/-- The item after a build. -/
def advancedBy (item : WorkItem) (m : Message) (outcome : BuildOutcome) : WorkItem :=
  let advanced := { item with payload := .message { m with extra := outcome.extra } }
  if outcome.incrementRetry then { advanced with retry := item.retry + 1, txHash := none }
  else advanced

/-- Build a transaction for an item and decide by its outcome. -/
def decideByBuild (r : Relayer σ) (item : WorkItem) (m : Message) : Work σ τ Decision := do
  let outcome ← Work.ask (r.collaborators.messages.build item) (.built item)
  match outcome.kind? with
  | none => Work.fail (.invariant ("unknown build outcome kind: " ++ outcome.kind))
  | some .built =>
    let advanced := advancedBy item m outcome
    match outcome.transaction with
    | none => return .settle advanced
    | some transaction =>
      return .submit ⟨{ advanced with txHash := some transaction.txId }, transaction, item.retry⟩
  | some .recoverable =>
    Work.log (itemLine messageLogger .warning item
      ("could not build execute transaction " ++ item.description ++ ", will be retried: " ++
        outcome.detail.shown))
    r.notifySafely .warn "Message approved error"
      ("Could not build and sign execute transaction " ++ item.description ++ ". Will be retried")
    Work.ask (r.collaborators.messages.invalidate item) (.invalidated item)
    return .settle { item with retry := item.retry + 1, txHash := none }
  | some .insufficientBalance =>
    return .settle (← r.failTerminal item (CannotExecute.ofOutcome outcome.kind))
  | some .invalidPayload =>
    return .settle (← r.failInvalid item (outcome.detail.orElse (.str "invalid payload")).shown)

/-- Decide about an item with nothing in flight: give it up at the ceiling, fail it without a
payload, build a transaction for it otherwise. -/
def decideFresh (r : Relayer σ) (item : WorkItem) : Work σ τ Decision := do
  if ceilingReached item.retry retryCeiling then
    return .settle (← r.failTerminal item .error)
  else
    match item.payload with
    | .message m =>
      if m.payload.isEmpty then return .settle (← r.failInvalid item "missing payload")
      else r.decideByBuild item m
    | _ => return .settle (← r.failInvalid item "missing payload")

/-- Decide about an item whose transaction in flight was resolved. -/
def decideResolved (r : Relayer σ) (item : WorkItem) (txHash : String) :
    Confirmation → Work σ τ Decision
  | .pending | .errored => return .leave
  | .confirmed => do
    if item.hasContinuation then
      Work.log (itemLine messageLogger .info item
        ("execution step " ++ txHash ++ " confirmed, continuing"))
      r.decideFresh item
    else
      Work.log (itemLine messageLogger .info item
        ("message executed by transaction " ++ txHash))
      return .settle { item with status := .success }
  | .failed | .timedOut => r.decideFresh item

/-- Decide about an item. -/
def decideMessage (r : Relayer σ) (item : WorkItem) : Work σ τ Decision := do
  match item.txHash with
  | none => r.decideFresh item
  | some txHash =>
    let sentAt := item.updatedAt.getD (← Work.now)
    r.decideResolved item txHash (← r.resolveTransaction messageLogger txHash sentAt)

/-! ### The second pass -/

/-- Send the transaction of an attempt. A failing collaborator counts as a rejection. -/
def sendAttempt (r : Relayer σ) (a : Attempt) : Work σ τ SendResult := do
  match ← Work.attempt (Work.ask (r.collaborators.messages.send a.transaction)
      (.sent a.transaction)) with
  | .ok result => return result
  | .error fault =>
    if fault.isDependency then
      Work.log (itemLine messageLogger .warning a.advanced
        ("transaction submission failed: " ++ fault.message))
      return { success := false, error := some fault.message }
    else Work.fail fault

/-- Send the transactions of attempts in order. With `ordered` the first rejection ends the
submission. -/
def submit (r : Relayer σ) (ordered : Bool) : List Attempt → Work σ τ (List WorkItem)
  | [] => return []
  | a :: rest => do
    let result ← r.sendAttempt a
    if result.success then
      return Attempt.accepted a result :: (← submit r ordered rest)
    else
      Work.log (itemLine messageLogger .warning a.advanced
        ("transaction " ++ a.transaction.txId ++ " was not accepted, will be retried: " ++
          shownText result.error))
      if ordered then return [a.rejected]
      else return a.rejected :: (← submit r ordered rest)

/-- The log line at the start of a batch. -/
def messageHeading (items : List WorkItem) : LogLine where
  level := .info
  logger := messageLogger
  message := "found " ++ toString items.length ++ " message approved items to execute"
  context := [("family", .str "message_approved")]

/-- Work on a batch. -/
def messageBatch (r : Relayer σ) (ordered : Bool) (items : List WorkItem) :
    Work σ τ (List WorkItem) := do
  Work.log (messageHeading items)
  let decisions ← items.mapM r.decideMessage
  let submitted ← r.submit ordered (decisions.filterMap Decision.attempt?)
  return decisions.filterMap Decision.settled? ++ submitted

end Relayer

end ChainRelay
