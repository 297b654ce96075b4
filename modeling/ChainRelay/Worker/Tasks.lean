import ChainRelay.Json.Parser
import ChainRelay.Worker.Basic
import ChainRelay.World.Queue

/-!
# Ingesting tasks of the hub

Tasks are read page by page after the last processed one and processed in order; each becomes a
work item or a pending broadcast, and its identifier becomes the cursor. The first task that cannot
be processed ends the run, so that it is tried again from the same cursor. A task of an unknown
type is passed over.

## Implementation notes

A hub may never run out of pages, so their number is bounded by `Relayer.pageLimit`.
-/

namespace ChainRelay.Relayer

variable {σ τ : Type} [Seconds τ]

/-- The logger of this worker. -/
def taskLogger : String := "relayer.poller.tasks"

/-- The cursor of the tasks. -/
def taskCursor : String := "lastTaskUUID"

/-! ### Reading tasks -/

/-- A member that a task must have: neither missing nor `null` nor an empty text. -/
def required (value : Json) (name : String) : Except Fault Json := do
  match ← value.member name with
  | .null => .error (.validation ("task is missing " ++ name))
  | .str "" => .error (.validation ("task is missing " ++ name))
  | v => .ok v

/-- The bytes of a Base64 member; what counts as false has none. -/
def base64Of (value : Json) (name : String) : Except Fault (List UInt8) :=
  match Text.Base64.decode (value.orElse (.str "")).shown with
  | .ok bytes => .ok bytes
  | .error _ => .error (.validation (name ++ " is not valid base64"))

/-- The object that a value is, or whose JSON text it is. -/
def requestFields (value : Json) : Except Fault Fields :=
  let refused : Except Fault Fields := .error (.validation "requestPayload is not a JSON object")
  match value with
  | .obj fields => .ok fields
  | .str _ | .torn _ =>
    match Json.parse value.shown with
    | .ok (.obj fields) => .ok fields
    | .error (.tooDeep isObject) => .error (.tooDeep isObject)
    | _ => refused
  | _ => refused

/-- The request that a task carries. -/
def requestOf (task : Json) : Except Fault Fields := do
  requestFields (← required task "requestPayload")

/-- The gas that pays for a message: only the native token counts. -/
def gasOf (task : Json) : Except Fault String := do
  let gas := (← task.member "availableGasBalance").orElse (.obj [])
  let token ← gas.member "tokenID"
  if token.truthy then .ok "0"
  else do
    let amount ← gas.member "amount"
    .ok (amount.orElse (.str "0")).shown

/-- The work item of a gateway task. -/
def gatewayItem (task : HubTask) : Except Fault WorkItem := do
  let data ← required task.body "executeData"
  .ok { family := .stacksTransaction, key := task.id, payload := .gateway data.shown }

/-- The work item of a task to execute a message. -/
def messageItem (task : HubTask) : Except Fault WorkItem := do
  let message ← required task.body "message"
  let sourceChain := (← required message "sourceChain").shown
  let messageId := (← required message "messageID").shown
  let availableGasBalance ← gasOf task.body
  let sourceAddress := ((← message.member "sourceAddress").orElse (.str "")).shown
  let contractAddress := ((← message.member "destinationAddress").orElse (.str "")).shown
  let hash ← base64Of (← message.member "payloadHash") "payloadHash"
  let payload ← base64Of (← task.body.member "payload") "payload"
  .ok {
    family := .messageApproved
    key := sourceChain ++ ":" ++ messageId
    payload := .message {
      sourceChain, messageId, sourceAddress, contractAddress, payload, availableGasBalance
      payloadHash := Text.Hex.encode hash
      taskItemId := .str task.id } }

/-- The work item of a refund task. -/
def refundItem (task : HubTask) : Except Fault WorkItem := do
  let message ← required task.body "message"
  let remaining ← required task.body "remainingGasBalance"
  let messageId := (← required message "messageID").shown
  let recipient := (← required task.body "refundRecipientAddress").shown
  let tokenId := (← remaining.member "tokenID").orElse .null
  let amount := (← required remaining "amount").shown
  .ok { family := .stacksTransaction, key := task.id
        payload := .refund { messageId, recipient, tokenId, amount } }

/-- The identifier and the pending broadcast of a task about a message. -/
def messageBroadcast (request : Json → Except Fault Fields) (space type : String)
    (task : HubTask) : Except Fault (String × PendingBroadcast) := do
  let request ← request task.body
  let message ← task.body.need "message"
  let chain := (← message.need "sourceChain").shown
  let id := (← message.need "messageID").shown
  .ok (space ++ chain ++ "_" ++ id, { request, type := .str type })

/-- The identifier and the pending broadcast of a task about a contract's session or poll. -/
def contractBroadcast (subject space type : String) (task : HubTask) :
    Except Fault (String × PendingBroadcast) := do
  let contract := (← required task.body "invokedContractAddress").shown
  let id := (← required task.body subject).shown
  let request ← requestOf task.body
  .ok (space ++ contract ++ "_" ++ id, { request, type := .str type })

/-! ### Processing tasks -/

/-- Write the work item of a task. -/
def enqueueItem (item : Except Fault WorkItem) : Work σ τ Unit := do
  let _ ← Work.upsert (← Work.ofExcept item)

/-- Put the pending broadcast of a task on the queue. -/
def enqueueBroadcast (r : Relayer σ) (found : Except Fault (String × PendingBroadcast)) :
    Work σ τ Unit := do
  let (id, item) ← Work.ofExcept found
  let timestamp := (← Work.now).toMillis
  r.broadcasts.put (r.broadcasts.keyOf id) { item with timestamp }

/-- What is done for a type of tasks. -/
def taskHandler (r : Relayer σ) (task : HubTask) : Option (Work σ τ Unit) :=
  match task.type with
  | "GATEWAY_TX" => some (enqueueItem (gatewayItem task))
  | "EXECUTE" => some (enqueueItem (messageItem task))
  | "REFUND" => some (enqueueItem (refundItem task))
  | "CONSTRUCT_PROOF" => some (r.enqueueBroadcast
      (messageBroadcast r.services.proofRequest "proof_" "CONSTRUCT_PROOF" task))
  | "VERIFY" => some (r.enqueueBroadcast
      (messageBroadcast r.services.verifyRequest "verify_" "VERIFY" task))
  | "REACT_TO_EXPIRED_SIGNING_SESSION" => some (r.enqueueBroadcast
      (contractBroadcast "sessionID" "retry_proof_" "CONSTRUCT_PROOF" task))
  | "REACT_TO_RETRIABLE_POLL" => some (r.enqueueBroadcast
      (contractBroadcast "pollID" "retry_verify_" "VERIFY" task))
  | _ => none

/-- Process a task, and say whether its type is known. -/
def processTask (r : Relayer σ) (task : HubTask) : Work σ τ Bool := do
  match r.taskHandler task with
  | none =>
    Work.log {
      level := .warning, logger := taskLogger
      message := "skipping task " ++ task.id ++ " with unsupported type " ++ task.type }
    return false
  | some work =>
    work
    return true

/-- Process tasks in order, each followed by the cursor. The result counts the processed ones and
says whether all were. -/
def processTasks (r : Relayer σ) : List HubTask → Work σ τ (Nat × Bool)
  | [] => return (0, true)
  | task :: rest => do
    match ← Work.attempt (r.processTask task) with
    | .error fault =>
      if fault.isDomain then
        Work.log {
          level := .error, logger := taskLogger, fault := some fault
          message := "could not process task " ++ task.id ++ " " ++ task.type ++
            ", will be retried" }
        r.notifySafely .error "Task processing error"
          ("Could not process task " ++ task.id ++ ", " ++ task.type ++ ". Will be retried")
        return (0, false)
      else Work.fail fault
    | .ok _ =>
      Work.setCursor taskCursor task.id
      let (count, all) ← processTasks r rest
      return (count + 1, all)

/-- Process pages of tasks after the last processed one and count them. -/
def processTaskPages (r : Relayer σ) (size : Int) : Nat → Option String → Work σ τ Nat
  | 0, _ => Work.giveUp
  | pages + 1, last => do
    match ← Work.attempt (Work.ask (r.collaborators.hub.tasks r.settings.sourceChain last size)
        (.tasksRead last size)) with
    | .error fault =>
      if fault.isDependency then
        Work.log {
          level := .error, logger := taskLogger, fault := some fault
          message := "error retrieving tasks, last task id " ++ shownText last }
        r.notifySafely .error "Task processing error"
          ("Error retrieving tasks... Last task UUID retrieved: " ++ shownText last)
        return 0
      else Work.fail fault
    | .ok tasks =>
      match tasks.getLast? with
      | none => return 0
      | some newest =>
        let (count, all) ← r.processTasks tasks
        if all then
          Work.log {
            level := .info, logger := taskLogger
            message := "processed " ++ toString tasks.length ++ " tasks, last task id " ++
              newest.id }
          let more ← processTaskPages r size pages (some newest.id)
          return count + more
        else return count

/-- How many tasks are asked for at once. -/
def taskPageSize : Int := 10

/-- Process all new tasks and count them. -/
def handleNewTasks (r : Relayer σ) (size : Int) : Work σ τ Nat := do
  r.processTaskPages size r.pageLimit (← Work.cursor? taskCursor)

end ChainRelay.Relayer
