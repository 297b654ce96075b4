import ChainRelay.Http.Basic
import ChainRelay.Text.Hex
import ChainRelay.WorkItem.Codec

/-!
# Building and sending over HTTP

A signing service builds and signs the transactions of work items; a node of the chain takes the
signed ones. A transaction that the node rejects is a result, not a fault.
-/

namespace ChainRelay

/-- A signed transaction as the signer writes it. -/
def SignedTransaction.ofJson (data : Json) : Except Fault SignedTransaction := do
  let txId ← data.need "tx_id"
  let serialized ← data.need "serialized"
  let nonce ← data.member "nonce"
  return { txId := txId.shown, serialized := serialized.shown, nonce }

/-- The outcome of a build as the signer writes it. -/
def BuildOutcome.ofJson (data : Json) : Except Fault BuildOutcome := do
  let signed ← data.member "transaction"
  let kind ← data.member "kind"
  let transaction ←
    if signed.truthy then (SignedTransaction.ofJson signed).map some else pure none
  let detail ← data.member "detail"
  let extra ← data.member "extra"
  let increment ← data.get "increment_retry"
  return {
    kind := kind.shown, transaction, detail, extra
    incrementRetry := (increment.getD (.bool true)).truthy }

/-- The bytes of a serialized transaction, which may be marked as hexadecimal. -/
def SignedTransaction.bytes (tx : SignedTransaction) : Except Fault (List UInt8) :=
  let digits := match tx.serialized.toList with
    | '0' :: 'x' :: rest => rest
    | cs => cs
  match Text.Hex.decodeChars digits with
  | some bytes => .ok bytes
  | none => .error (.badValue "transaction is not hexadecimal")

namespace Http

variable {σ : Type}

/-- A signing service and a node behind a network. -/
structure SignerService (σ : Type) where
  net : Network σ
  signer : Url
  node : Url

namespace SignerService

/-- Post something. -/
def post (s : SignerService σ) (base : Url) (reference : String) (body : Body) : Call σ Reply :=
  s.net.reach ("request " ++ reference) { method := .post, base, reference, body }

/-- What the signer is told about an item. -/
def order (item : WorkItem) : Json :=
  .obj [("family", .str item.family.word), ("natural_key", .str item.key),
    ("retry", .int item.retry), ("previous_tx_hash", Json.ofText? item.txHash),
    ("payload", item.payload.toJson)]

/-- Build the transaction of an item. -/
def build (s : SignerService σ) (item : WorkItem) : Call σ BuildOutcome := do
  let reply ← s.post s.signer "/transactions/build" (.json (order item))
  if reply.isError then
    throw (.dependency ("signer returned " ++ toString reply.status ++ " for " ++ item.key))
  else BuildOutcome.ofJson (← reply.json)

/-- Send a transaction. -/
def send (s : SignerService σ) (tx : SignedTransaction) : Call σ SendResult := do
  let content ← tx.bytes
  let reply ← s.post s.node "/v2/transactions" (.bytes content)
  if reply.isError then
    s.net.report {
      level := .warning, logger := "relayer.signer"
      message := "transaction " ++ tx.txId ++ " rejected: " ++ reply.text }
    return { success := false, error := some reply.text }
  else
    let accepted ← reply.json
    return { success := true, txHash := some accepted.shown }

/-- Forget what was built for an item. -/
def invalidate (s : SignerService σ) (item : WorkItem) : Call σ Unit := do
  let reply ← s.post s.signer "/transactions/invalidate"
    (.json (.obj [("natural_key", .str item.key)]))
  if reply.isError then
    throw (.dependency ("signer returned " ++ toString reply.status ++ " on invalidate"))

/-- The services as a collaborator. -/
def executor (s : SignerService σ) : Executor σ where
  build item := s.build item
  send tx := s.send tx
  invalidate item := s.invalidate item

end SignerService

end Http

end ChainRelay
