import ChainRelay.Json.Options
import ChainRelay.Log.Line
import ChainRelay.Time.Calendar
import ChainRelay.WorkItem.Codec
import ChainRelay.WorkItem.Store

/-!
# Reports of work items

The JSON form in which work items are shown to people and given by them. Times are counted in
microseconds from an origin.
-/

namespace ChainRelay

open Json.Options

/-- A fault that somebody asks for by its kind. -/
def Fault.ofReport (given : Json) : Fault :=
  let message := text given "message" "injected"
  match text given "kind" "" with
  | "dependency" => .dependency message
  | "validation" => .validation message
  | "invariant" => .invariant message
  | "timeout" => .timeout message
  | _ => .failure message

/-- An optional text in a report. -/
def optionalText (t : Option String) : Json := Json.ofText? t

/-- An instant in a report. -/
def reportInstant (origin : Instant) : Option Instant → Json
  | some (t : Int) => .int (t - (origin : Int))
  | none => .null

/-- An instant given in a report, which has to lie in the calendar. -/
def instantAt? (origin : Instant) (given : Json) (name : String) :
    Except Fault (Option Instant) :=
  (given? given name).mapM fun v => Instant.checked (wholeOf v + (origin : Int))

/-- A family by its word. -/
def Family.ofReport (given : Json) : Except Fault Family :=
  match Family.ofWord? given.shown with
  | some family => .ok family
  | none => .error (.badValue "unknown family")

/-- A status by its word. -/
def Status.ofReport (given : Json) : Except Fault Status :=
  match Status.ofWord? given.shown with
  | some status => .ok status
  | none => .error (.badValue "unknown status")

namespace WorkItem

/-- An item in a report. -/
def report (origin : Instant) (item : WorkItem) : Json :=
  .obj [("family", .str item.family.word), ("key", .str item.key),
    ("payload", item.payload.toJson), ("status", .str item.status.word),
    ("retry", .int item.retry), ("tx_hash", Json.ofText? item.txHash),
    ("created_at", reportInstant origin item.createdAt),
    ("updated_at", reportInstant origin item.updatedAt)]

/-- The item that a report denotes. -/
def ofReport (origin : Instant) (given : Json) : Except Fault WorkItem := do
  let family ← Family.ofReport (field given "family")
  let payload ← Payload.ofJson (field given "payload")
  let status ← match given? given "status" with
    | some word => Status.ofReport word
    | none => pure .pending
  let createdAt ← instantAt? origin given "created_at"
  let updatedAt ← instantAt? origin given "updated_at"
  return {
    family, payload, status, createdAt, updatedAt
    key := text given "key" ""
    retry := number given "retry" 0
    txHash := text? given "tx_hash" }

/-- An item with the changes that somebody asks for. -/
def changed (changes : Json) (item : WorkItem) : Except Fault WorkItem := do
  let status ← match given? changes "status" with
    | some word => Status.ofReport word
    | none => pure item.status
  let payload ← match given? changes "payload" with
    | some payload => Payload.ofJson payload
    | none => pure item.payload
  let family ← match given? changes "family" with
    | some word => Family.ofReport word
    | none => pure item.family
  let txHash := match field? changes "tx_hash" with
    | some .null => none
    | some hash => some hash.shown
    | none => item.txHash
  let retry := number changes "retry" item.retry + number changes "retry_add" 0
  return { item with status, payload, family, retry, txHash }

/-- Claimed items with changes: each entry is for all of them or for the one of a key. An entry for
a key that was not claimed makes a new item of the family. -/
def changedAll (family : Family) (claimed : List WorkItem) (entries : List Json) :
    Except Fault (List WorkItem) := do
  let lists ← entries.mapM fun entry =>
    if flag entry "all" false then claimed.mapM (changed entry)
    else do
      let key := text entry "key" ""
      let known := claimed.find? fun item => item.key == key
      let item ← changed entry (known.getD { family, key, payload := .crossChain key })
      return [item]
  return lists.flatten

end WorkItem

/-- The answer to an upsert in a report. -/
def Upserted.report (answer : Upserted) : Json :=
  .obj [("key", .str answer.key), ("status", .str answer.status.word),
    ("created", .bool answer.created)]

/-- A log line in a report. -/
def LogLine.report (line : LogLine) : Json :=
  .obj ([("level", .str line.level.word), ("message", .str line.message),
    ("logger", .str line.logger)] ++ line.visible ++
    (if line.fault.isSome then [("exc_info", .bool true)] else []))

end ChainRelay
