import ChainRelay.Http.Basic

/-!
# The chain over HTTP

Transactions, balances and contract events, read from a service that follows the chain. A
transaction that it does not know is no failure. A status below four hundred is no failure either.
-/

namespace ChainRelay

/-- The status of a transaction as the service writes it. One that is neither pending nor done has
been aborted or dropped. -/
def TransactionStatus.ofJson : Json → TransactionStatus
  | .str "success" => .success
  | .null | .str "pending" => .pending
  | _ => .failed

/-- A transaction as the service writes it. -/
def ChainTransaction.ofJson (txHash : String) (data : Json) : Except Fault ChainTransaction := do
  let known ← data.member "tx_id"
  let status ← data.member "tx_status"
  let fee ← data.member "fee_rate"
  let height ← data.member "burn_block_height"
  return {
    txHash := (known.orElse (.str txHash)).shown
    status := TransactionStatus.ofJson status
    fee := (fee.orElse (.str "0")).shown
    burnBlockHeight := height
    raw := data }

/-- The amount of a holding, zero if nothing is held. -/
def AccountBalance.amount (holding : Json) : Except Fault Int := do
  ((← (holding.orElse (.obj [])).member "balance").orElse (.int 0)).toInt

/-- What an account holds, as the service writes it. -/
def AccountBalance.ofJson (data : Json) : Except Fault AccountBalance := do
  let held ← ((← data.member "fungible_tokens").orElse (.obj [])).members
  let tokens ← held.mapM fun (token, holding) => do return (token, ← amount holding)
  let stx ← amount (← data.member "stx")
  return { stx, tokens }

/-- An event of a contract as the service writes it. -/
def ContractEvent.ofJson (contract : String) (item : Json) : Except Fault ContractEvent := do
  let entry := (← item.member "contract_log").orElse (.obj [])
  let txId ← item.need "tx_id"
  let index ← (← item.need "event_index").toInt
  let type ← item.member "event_type"
  let emitter ← entry.member "contract_id"
  let topic ← entry.member "topic"
  let value := (← entry.member "value").orElse (.obj [])
  let hex ← value.member "hex"
  return {
    txId := txId.shown
    index
    type := (type.orElse (.str "")).shown
    contractId := (emitter.orElse (.str contract)).shown
    topic := (topic.orElse (.str "")).shown
    valueHex := (hex.orElse (.str "0x")).shown }

namespace Http

variable {σ : Type}

/-- A chain service behind a network. -/
structure ChainService (σ : Type) where
  net : Network σ
  base : Url

namespace ChainService

/-- Read something. -/
def read (s : ChainService σ) (reference : String) (query : List (String × String)) :
    Call σ Reply :=
  s.net.reach ("chain request " ++ reference) { method := .get, base := s.base, reference, query }

/-- The value of an answer that is no error; `subject` names what was asked for. -/
def valueOf (reply : Reply) (subject : String) : Except Fault Json :=
  if reply.isError then
    .error (.dependency ("chain returned " ++ toString reply.status ++ " for " ++ subject))
  else reply.json

/-- A transaction, unless the service does not know it. -/
def transaction (s : ChainService σ) (txHash : String) : Call σ (Option ChainTransaction) := do
  let reply ← s.read ("/extended/v1/tx/" ++ txHash) []
  if reply.status = 404 then return none
  else
    let data ← valueOf reply ("tx " ++ txHash)
    return some (← ChainTransaction.ofJson txHash data)

/-- What an account holds. -/
def balance (s : ChainService σ) (account : String) : Call σ AccountBalance := do
  let reply ← s.read ("/extended/v1/address/" ++ account ++ "/balances") []
  AccountBalance.ofJson (← valueOf reply ("account " ++ account))

/-- Events of a contract, newest first. -/
def events (s : ChainService σ) (contract : String) (offset limit : Int) :
    Call σ (List ContractEvent) := do
  let reply ← s.read ("/extended/v1/contract/" ++ contract ++ "/events")
    [("offset", toString offset), ("limit", toString limit)]
  let data ← valueOf reply ("contract " ++ contract)
  let items ← ((← data.member "results").orElse (.arr [])).parts
  items.mapM fun item => ContractEvent.ofJson contract item

/-- The service as a collaborator. -/
def source (s : ChainService σ) : ChainSource σ where
  transaction txHash := s.transaction txHash
  balance account := s.balance account
  events contract offset limit := s.events contract offset limit

end ChainService

end Http

end ChainRelay
