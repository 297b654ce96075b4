import ChainRelay.Http.Basic
import ChainRelay.Json.Options
import ChainRelay.Text.Hex

/-!
# Reports of exchanges

The JSON form in which requests to services, and what services answer, are shown to people and
given by them.
-/

namespace ChainRelay

open Json.Options

/-- A hub task in a report. -/
def HubTask.report (t : HubTask) : Json :=
  .obj [("id", .str t.id), ("type", .str t.type), ("task", t.body)]

/-- The hub task that a report gives. -/
def HubTask.ofReport (given : Json) : HubTask :=
  { id := text given "id" "", type := text given "type" ""
    body := (field? given "task").getD (.obj []) }

/-- The answer to an event in a report. -/
def EventResult.report (r : EventResult) : Json :=
  .obj [("index", .int r.index), ("status", .str (if r.accepted then "ACCEPTED" else "ERROR")),
    ("error", r.error), ("retriable", .bool r.retriable)]

/-- A chain transaction in a report. -/
def ChainTransaction.report (t : ChainTransaction) : Json :=
  .obj [("tx_hash", .str t.txHash), ("status", .str t.status.word), ("fee", .str t.fee),
    ("burn_block_height", t.burnBlockHeight), ("raw", t.raw)]

/-- A contract event in a report. -/
def ContractEvent.report (e : ContractEvent) : Json :=
  .obj [("tx_id", .str e.txId), ("event_index", .int e.index), ("event_type", .str e.type),
    ("contract_id", .str e.contractId), ("topic", .str e.topic), ("value_hex", .str e.valueHex),
    ("event_id", .str e.id)]

/-- The contract event that a report gives. -/
def ContractEvent.ofReport (contract : String) (given : Json) : ContractEvent :=
  { txId := text given "tx_id" "", index := number given "index" 0
    type := text given "type" "smart_contract_log", contractId := contract }

/-- A balance in a report, with what is held of some tokens. -/
def AccountBalance.report (b : AccountBalance) (tokens : List Json) : Except Fault Json := do
  let amounts ← tokens.mapM fun token => match b.of? token with
    | some n => pure (Json.int n)
    | none => throw (.wrongKind "a token has a name")
  return .obj [("stx", .int b.stx), ("tokens", .obj (b.tokens.map fun t => (t.1, .int t.2))),
    ("of", .arr amounts)]

/-- The balance that a report gives. -/
def AccountBalance.ofReport (given : Json) : AccountBalance :=
  { stx := number given "stx" 0
    tokens := (members given "tokens").map fun e => (e.1, wholeOf e.2) }

/-- A signed transaction in a report. -/
def SignedTransaction.report (t : SignedTransaction) : Json :=
  .obj [("tx_id", .str t.txId), ("serialized", .str t.serialized), ("nonce", t.nonce)]

/-- The signed transaction that a report gives. -/
def SignedTransaction.ofReport (given : Json) : SignedTransaction :=
  { txId := text given "tx_id" "", serialized := text given "serialized" ""
    nonce := field given "nonce" }

/-- The outcome of a build in a report. -/
def BuildOutcome.report (o : BuildOutcome) : Json :=
  .obj [("kind", .str o.kind), ("transaction", (o.transaction.map (·.report)).getD .null),
    ("detail", o.detail), ("extra", o.extra), ("increment_retry", .bool o.incrementRetry)]

/-- The outcome of a build that a report gives. -/
def BuildOutcome.ofReport (given : Json) : BuildOutcome :=
  { kind := text given "kind" ""
    transaction := (given? given "transaction").map SignedTransaction.ofReport
    detail := field given "detail", extra := field given "extra"
    incrementRetry := flag given "increment_retry" true }

/-- The answer to a sent transaction in a report. -/
def SendResult.report (r : SendResult) : Json :=
  .obj [("success", .bool r.success), ("tx_hash", Json.ofText? r.txHash),
    ("error", Json.ofText? r.error)]

/-- The answer to a sent transaction that a report gives. -/
def SendResult.ofReport (given : Json) : SendResult :=
  { success := flag given "success" false, txHash := text? given "tx_hash"
    error := text? given "error" }

namespace Http

/-- A request in a report. -/
def Request.report (r : Request) : Json :=
  let body : Fields := match r.body with
    | .empty => []
    | .json value => [("json", value)]
    | .bytes content => [("bytes", .str (Text.Hex.encode content))]
  let fields := r.url.fields
  let query : Fields :=
    if fields.isEmpty then [] else [("params", .obj (fields.map fun q => (q.1, .str q.2)))]
  .obj ([("method", .str r.method.word), ("host", .str r.url.host), ("path", .str r.url.page)] ++
    query ++ r.correlation.toList.map (fun id => ("correlation_id", .str id)) ++ body)

/-- The reply that a report gives, or the reason why there is none. -/
def Reply.ofReport (given : Json) : Except String Reply :=
  match field? given "connect_error" with
  | some reason => .error reason.shown
  | none =>
    let body := match field? given "json" with
      | some value => value.encode
      | none => Json.Options.text given "text" ""
    .ok ⟨number given "status" 200, body⟩

end Http

end ChainRelay
