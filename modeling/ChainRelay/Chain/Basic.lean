import ChainRelay.Json.Basic
import ChainRelay.Time.Quantity

/-!
# What the chain reports

Transactions with their status, balances of an account, and the events of a contract.
-/

namespace ChainRelay

/-- How far a transaction is on the chain. -/
inductive TransactionStatus where
  | pending
  | success
  | failed
  deriving DecidableEq, Repr, Inhabited

namespace TransactionStatus

/-- The word for a status. -/
def word : TransactionStatus → String
  | pending => "pending"
  | success => "success"
  | failed => "failed"

/-- The status of a word. -/
def ofWord? : String → Option TransactionStatus
  | "pending" => some pending
  | "success" => some success
  | "failed" => some failed
  | _ => none

@[simp] theorem ofWord?_word (x : TransactionStatus) : ofWord? x.word = some x := by cases x <;> rfl

end TransactionStatus

/-- A transaction that the chain knows. -/
structure ChainTransaction where
  txHash : String
  status : TransactionStatus
  fee : String := "0"
  burnBlockHeight : Json := .null
  raw : Json := .obj []
  deriving Inhabited

/-- What an account holds: the native token and others by their name. -/
structure AccountBalance where
  stx : Int
  tokens : List (String × Int) := []
  deriving Inhabited

/-- The balance of a token; without one, of the native token. A token that is not named by a text
is held by nobody, unless its name cannot be looked up at all. -/
def AccountBalance.of? (balance : AccountBalance) (token : Json) : Option Int :=
  if token.truthy then
    match token with
    | .str name => some ((balance.tokens.lookup name).getD 0)
    | .arr _ | .obj _ => none
    | _ => some 0
  else some balance.stx

/-- An event of a contract. -/
structure ContractEvent where
  txId : String
  index : Int
  type : String
  contractId : String
  topic : String := ""
  valueHex : String := "0x"
  deriving Inhabited, DecidableEq, Repr

/-- What identifies an event: its transaction and its place in it. -/
def ContractEvent.id (event : ContractEvent) : String :=
  event.txId ++ "-" ++ toString event.index

end ChainRelay
