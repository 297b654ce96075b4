import ChainRelay.Worker.Basic
import ChainRelay.WorkItem.Lifecycle

/-!
# Advancing pending broadcasts

Each pending broadcast is advanced by one step: one that is in flight is resolved, any other is
broadcast. A step that fails costs a retry; at the ceiling the operators are told and the item is
dropped.
-/

namespace ChainRelay.Relayer

variable {σ τ : Type} [Seconds τ]

/-- The logger of this worker. -/
def broadcastLogger : String := "relayer.processor.broadcasts"

/-- A log line about the item of a key. -/
def broadcastLine (level : LogLevel) (key message : String) : LogLine where
  level := level
  logger := broadcastLogger
  message := message
  context := [("natural_key", .str key)]

/-- The contract that an item is broadcast to. -/
def targetContract (r : Relayer σ) (item : PendingBroadcast) : String :=
  if item.type.isText "CONSTRUCT_PROOF" then r.settings.hubProver else r.settings.hubGateway

/-- Write an item back after a failed step: one more retry, and the time of the failure. -/
def countFailure (r : Relayer σ) (key : String) (item : PendingBroadcast) : Work σ τ Unit := do
  let timestamp := (← Work.now).toMillis
  r.broadcasts.put key { item with retry := item.retry + 1, timestamp }

/-- Resolve a broadcast in flight. -/
def settleBroadcast (r : Relayer σ) (key : String) (item : PendingBroadcast) : Work σ τ Unit := do
  let contract := r.targetContract item
  let sentAt ← Work.ofExcept (Instant.ofStored item.timestamp)
  let id := item.broadcastId.shown
  let outcome ← resolve Tracker.broadcasts broadcastLogger ("broadcast:" ++ id)
    (r.collaborators.hub.status id contract) (.statusRead id contract) sentAt
  match outcome with
  | .confirmed =>
    Work.log (broadcastLine .info key
      ("broadcast " ++ id ++ " for " ++ item.type.shown ++ " succeeded"))
    BroadcastQueue.erase key
  | .pending | .errored => pure ()
  | .failed | .timedOut =>
    Work.log (broadcastLine .warning key
      ("broadcast " ++ id ++ " for " ++ item.type.shown ++ " did not succeed (" ++ outcome.word ++
        "), will be retried"))
    r.countFailure key { item with broadcastId := .null }

/-- Broadcast an item, or drop it at the ceiling. -/
def broadcastItem (r : Relayer σ) (key : String) (item : PendingBroadcast) : Work σ τ Unit := do
  if ceilingReached item.retry retryCeiling then
    let message := "Max retries reached for " ++ item.type.shown ++ ": " ++
      (Json.obj item.request).encode
    Work.log (broadcastLine .error key message)
    r.notifySafely .error "Hub broadcast error" message
    BroadcastQueue.erase key
  else
    let contract := r.targetContract item
    match ← Work.attempt (Work.ask (r.collaborators.hub.broadcast item.request contract)
        (.broadcast contract item.request)) with
    | .ok id =>
      let timestamp := (← Work.now).toMillis
      r.broadcasts.put key { item with broadcastId := .str id, timestamp }
      Work.log (broadcastLine .info key
        (item.type.shown ++ " broadcast successful, id " ++ id))
    | .error fault =>
      if fault.isDependency then
        Work.log (broadcastLine .warning key
          ("error broadcasting " ++ item.type.shown ++ ": " ++ fault.message))
        r.notifySafely .warn "Hub broadcast error"
          ("Error broadcasting " ++ item.type.shown ++ ". Will be retried")
        r.countFailure key item
      else Work.fail fault

/-- Advance the item of a key, if it is still there, and say whether it was. -/
def advanceBroadcast (r : Relayer σ) (key : String) : Work σ τ Bool := do
  match ← BroadcastQueue.get? key with
  | none => return false
  | some item =>
    if item.broadcastId.truthy then r.settleBroadcast key item
    else r.broadcastItem key item
    return true

/-- Advance the items of some keys, one after the other, and count those that were there. -/
def advanceBroadcasts (r : Relayer σ) : List String → Work σ τ Nat
  | [] => return 0
  | key :: rest => do
    let present ← r.advanceBroadcast key
    let handled ← advanceBroadcasts r rest
    return handled + (if present then 1 else 0)

/-- Advance every pending broadcast by one step and count them. -/
def processBroadcasts (r : Relayer σ) : Work σ τ Nat := do
  r.advanceBroadcasts (← r.broadcasts.keys)

end ChainRelay.Relayer
