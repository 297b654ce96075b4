import ChainRelay.Database.Query
import ChainRelay.WorkItem.Codec
import ChainRelay.World.Queue

/-!
# The durable queue in a database

The operations of the queue as statements of a database that does the locking itself: a batch is
one transaction, which claims rows, lets a handler work and writes its result. A transaction that
does not come to its end is rolled back.

## Implementation notes

The state of the collaborators is a session here: a connection with the knowledge whether it is
open. Rows come as objects; instants in them are whole microseconds.
-/

namespace ChainRelay.Database

/-- What is to be had from a query. -/
inductive Wanted where
  | row
  | rows
  | value
  | nothing
  deriving DecidableEq, Repr

/-- A statement. -/
inductive Statement where
  | start
  | commit
  | rollback
  | close
  | query (wanted : Wanted) (query : Query) (arguments : List Json)
  deriving Inhabited

/-- How a connection carries out statements. -/
abbrev Connection (σ : Type) := Statement → Answers σ Json

/-- A session: the state of a connection, and whether it is open. -/
structure Session (σ : Type) where
  isOpen : Bool
  state : σ

variable {σ τ : Type}

/-- Work in a session. -/
abbrev InSession (σ τ α : Type) := Work (Session σ) τ α

/-- Carry out a statement. -/
def run (c : Connection σ) (statement : Statement) : InSession σ τ Json :=
  fun w =>
    let (answer, state) := c statement w.env.state
    let w := { w with env := { w.env with state } }
    match answer with
    | .ok value => (.ok value, w)
    | .error fault => (.error (.fault fault), w)

/-- Make sure that the session is open. -/
def needOpen : InSession σ τ Unit := do
  unless (← get).env.isOpen do Work.fail (.failure "postgres pool is not initialized")

/-- End the session. -/
def shutdown (c : Connection σ) : InSession σ τ Unit := do
  if (← get).env.isOpen then
    let _ ← run c .close
    modify fun w => { w with env := { w.env with isOpen := false } }

/-- Do something in a transaction. -/
def transaction {α : Type} (c : Connection σ) (work : InSession σ τ α) : InSession σ τ α := do
  let _ ← run c .start
  fun w =>
    match work w with
    | (.ok a, w) => (do let _ ← run c .commit; return a : InSession σ τ α) w
    | (.error halt, w) => (do let _ ← run c .rollback; throw halt : InSession σ τ α) w

/-! ### Rows -/

/-- A text in a row that may be `null`. -/
def optionalText : Json → Option String
  | .null => none
  | value => some value.shown

/-- An instant in a row that may be `null`. -/
def optionalInstant : Json → Except Fault (Option Instant)
  | .null => .ok none
  | value => value.toInt.map some

/-- A status in a row. -/
def statusOf (value : Json) : Except Fault Status :=
  match value.str?.bind Status.ofWord? with
  | some status => .ok status
  | none => .error (.badValue (Json.Style.message.write value ++ " is not a status"))

/-- A family in a row. -/
def familyOf (value : Json) : Except Fault Family :=
  match value.str?.bind Family.ofWord? with
  | some family => .ok family
  | none => .error (.badValue (Json.Style.message.write value ++ " is not a family"))

/-- The members of a stored payload, which carries its kind or has it in a column of its own. -/
def payloadOf (row : Json) : Except Fault Fields := do
  let stored ← ((← row.need "payload").orElse (.obj [])).toFields
  let kind ← row.need "payload_kind"
  return if (stored.get? "kind").isSome then stored else stored.put "kind" kind

/-- The item of a row. -/
def itemOf (row : Json) : Except Fault WorkItem := do
  let payload ← payloadOf row
  let family ← familyOf (← row.need "family")
  let key ← row.need "natural_key"
  let payload ← Payload.ofFields payload
  let status ← statusOf (← row.need "status")
  let retry ← (← row.need "retry").toInt
  let txHash ← row.need "tx_hash"
  let createdAt ← optionalInstant (← row.need "created_at")
  let updatedAt ← optionalInstant (← row.need "updated_at")
  return {
    family, payload, status, retry, createdAt, updatedAt
    key := key.shown, txHash := optionalText txHash }

/-! ### The queue -/

/-- Write an item. A row that is finished is left alone, and no row comes back for it. -/
def write (c : Connection σ) (item : WorkItem) : InSession σ τ Upserted := do
  let row ← run c (.query .row .upsertItem [.str item.family.word, .str item.key,
    .str item.status.word, .int item.retry, .str item.payload.kind, item.payload.toJson,
    Json.ofText? item.txHash])
  if !row.isNull then
    let key ← Work.ofExcept (row.need "natural_key")
    let status ← Work.ofExcept (row.need "status" >>= statusOf)
    let created ← Work.ofExcept (row.need "created")
    return ⟨key.shown, status, created.truthy⟩
  else
    let row ← run c (.query .row .getItem [.str item.family.word, .str item.key])
    if row.isNull then
      Work.fail (.invariant ("upsert conflict without row for " ++ item.key))
    else
      let key ← Work.ofExcept (row.need "natural_key")
      let status ← Work.ofExcept (row.need "status" >>= statusOf)
      return ⟨key.shown, status, false⟩

/-- Write an item. -/
def upsert (c : Connection σ) (item : WorkItem) : InSession σ τ Upserted := do
  needOpen
  write c item

/-- Write items, all or none. -/
def upsertAll (c : Connection σ) (items : List WorkItem) : InSession σ τ (List Upserted) := do
  needOpen
  transaction c (items.mapM (write c))

/-- The item of a key. -/
def itemOf? (c : Connection σ) (family : Family) (key : String) :
    InSession σ τ (Option WorkItem) := do
  needOpen
  let row ← run c (.query .row .getItem [.str family.word, .str key])
  if row.isNull then return none
  else return some (← Work.ofExcept (itemOf row))

/-- A quantity as an argument of a statement, which takes doubles only. -/
def double (q : Quantity) : Except Fault Json :=
  q.check.map fun _ => .float q.toFloat

/-- Claim a batch. -/
def claim (c : Connection σ) (order : Work.BatchOrder) : InSession σ τ (List WorkItem) := do
  let first ← Work.ofExcept (double order.backoff.first)
  let between ← Work.ofExcept (double order.backoff.between)
  let rows ← run c (.query .rows .claimPending
    [.str order.family.word, first, between, .int order.size])
  Work.ofExcept (rows.parts >>= fun rows => rows.mapM itemOf)

/-- Write one item of a result. -/
def writeResult (c : Connection σ) (family : Family) (item : WorkItem) : InSession σ τ Unit := do
  let updated ← run c (.query .value .updateProcessed [.str family.word, .str item.key,
    .str item.status.word, .int item.retry, Json.ofText? item.txHash, .str item.payload.kind,
    item.payload.toJson])
  if updated.isNull then
    Work.fail (.invariant ("claimed row disappeared: " ++ item.key))

/-- Check the result of a batch and write it. -/
def commitResults (c : Connection σ) (family : Family) (claimed results : List WorkItem) :
    InSession σ τ Unit := do
  Work.ofExcept (Store.checkResults family claimed results)
  results.forM (writeResult c family)

/-- Claim a batch, let a handler work on it and write its result, all in one transaction. -/
def batch (c : Connection σ) (order : Work.BatchOrder)
    (handler : List WorkItem → InSession σ τ (List WorkItem)) : InSession σ τ (List WorkItem) :=
  transaction c do
    let claimed ← claim c order
    let results ← handler claimed
    commitResults c order.family claimed results
    return results

/-- Work off a batch within its time. -/
def processPending [Seconds τ] (c : Connection σ) (order : Work.BatchOrder)
    (handler : List WorkItem → InSession σ τ (List WorkItem)) :
    InSession σ τ (List WorkItem) := do
  needOpen
  match ← Work.attempt (Work.withTimeout order.timeout (batch c order handler)) with
  | .ok (some results) => return results
  | .ok none => Work.fail (.queueTimeout order.family order.timeout)
  | .error (.timeout _) => Work.fail (.queueTimeout order.family order.timeout)
  | .error fault => Work.fail fault

/-! ### Cursors -/

/-- The value of a cursor. -/
def cursor? (c : Connection σ) (name : String) : InSession σ τ (Option String) := do
  needOpen
  return optionalText (← run c (.query .value .getCursor [.str name]))

/-- Set a cursor. -/
def setCursor (c : Connection σ) (name value : String) : InSession σ τ Unit := do
  needOpen
  let _ ← run c (.query .nothing .setCursor [.str name, .str value])

end ChainRelay.Database
