import ChainRelay.Json.Basic
import ChainRelay.Time.Instant

/-!
# Work items

The rows of the durable queue. A work item belongs to a family and is known in it by its natural
key; its payload says what is to be done, its status how far it is, and its handle (`txHash`)
which transaction is in flight for it.
-/

namespace ChainRelay

/-- How far a work item is. -/
inductive Status where
  | pending
  | success
  | failed
  deriving DecidableEq, Repr, Inhabited

namespace Status

/-- The stored word of a status. -/
def word : Status → String
  | pending => "pending"
  | success => "success"
  | failed => "failed"

/-- The status of a stored word. -/
def ofWord? : String → Option Status
  | "pending" => some pending
  | "success" => some success
  | "failed" => some failed
  | _ => none

@[simp] theorem ofWord?_word (x : Status) : ofWord? x.word = some x := by cases x <;> rfl

end Status

/-- The families of work items. -/
inductive Family where
  /-- Messages approved on the source side, to be executed here. -/
  | messageApproved
  /-- Outbound gateway and refund transactions. -/
  | stacksTransaction
  /-- Transactions seen on the chain whose events are relayed to the hub. -/
  | crossChainTransaction
  deriving DecidableEq, Repr, Inhabited

namespace Family

/-- The stored word of a family. -/
def word : Family → String
  | messageApproved => "message_approved"
  | stacksTransaction => "stacks_transaction"
  | crossChainTransaction => "cross_chain_transaction"

/-- The family of a stored word. -/
def ofWord? : String → Option Family
  | "message_approved" => some messageApproved
  | "stacks_transaction" => some stacksTransaction
  | "cross_chain_transaction" => some crossChainTransaction
  | _ => none

@[simp] theorem ofWord?_word (x : Family) : ofWord? x.word = some x := by cases x <;> rfl

end Family

/-- An approved message. -/
structure Message where
  sourceChain : String
  messageId : String
  sourceAddress : String
  contractAddress : String
  payloadHash : String
  payload : List UInt8
  availableGasBalance : String := "0"
  taskItemId : Json := .null
  /-- Continuation state of a multi-step execution; `null` when there is none. -/
  extra : Json := .null
  deriving Inhabited

/-- A refund of unused gas. -/
structure Refund where
  messageId : String
  recipient : String
  /-- The token to refund, the native one if it counts as false. -/
  tokenId : Json
  amount : String
  deriving Inhabited

/-- What is to be done for a work item. -/
inductive Payload where
  | message (m : Message)
  | gateway (executeData : String)
  | refund (r : Refund)
  | crossChain (txHash : String)
  deriving Inhabited

namespace Payload

/-- The stored word of a kind of payload. -/
def kind : Payload → String
  | message _ => "message_approved"
  | gateway _ => "gateway"
  | refund _ => "refund"
  | crossChain _ => "cross_chain"

/-- The message of a message payload. -/
def message? : Payload → Option Message
  | message m => some m
  | _ => none

end Payload

/-- A row of the durable queue. -/
structure WorkItem where
  family : Family
  key : String
  payload : Payload
  status : Status := .pending
  retry : Int := 0
  txHash : Option String := none
  createdAt : Option Instant := none
  updatedAt : Option Instant := none
  deriving Inhabited

/-- The answer to writing a work item. -/
structure Upserted where
  key : String
  status : Status
  created : Bool
  deriving DecidableEq, Repr, Inhabited

end ChainRelay
