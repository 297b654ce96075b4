import ChainRelay.Json.Access
import ChainRelay.Text.Hex
import ChainRelay.WorkItem.Basic

/-!
# Stored payloads

Payloads are stored as JSON objects that carry their kind. What is read is normalised: a missing
or empty amount of gas is `"0"`, a missing text is empty, and texts are made of whatever values
stand in their place. The fields that identify a task item or a token and the continuation state
are kept as they are.
-/

namespace ChainRelay.Payload

/-- The stored form of a payload. -/
def toFields : Payload → Fields
  | message m => [
      ("kind", .str "message_approved"),
      ("source_chain", .str m.sourceChain),
      ("message_id", .str m.messageId),
      ("source_address", .str m.sourceAddress),
      ("contract_address", .str m.contractAddress),
      ("payload_hash", .str m.payloadHash),
      ("payload", .str (Text.Hex.encode m.payload)),
      ("available_gas_balance", .str m.availableGasBalance),
      ("task_item_id", m.taskItemId),
      ("extra", m.extra)]
  | gateway executeData => [("kind", .str "gateway"), ("execute_data", .str executeData)]
  | refund r => [
      ("kind", .str "refund"),
      ("message_id", .str r.messageId),
      ("refund_recipient_address", .str r.recipient),
      ("token_id", r.tokenId),
      ("amount", .str r.amount)]
  | crossChain txHash => [("kind", .str "cross_chain"), ("tx_hash", .str txHash)]

/-- The stored form of a payload, as a value. -/
def toJson (p : Payload) : Json := .obj p.toFields

/-- The text of a member, empty if it is missing; `null` is shown. -/
def textOf (fields : Fields) (name : String) : String :=
  ((fields.get? name).getD (.str "")).shown

/-- The text of a member, a fallback if it is missing or counts as false. -/
def textOr (fields : Fields) (name fallback : String) : String :=
  (((fields.get? name).getD .null).orElse (.str fallback)).shown

/-- The payload that stored members denote. -/
def ofFields (fields : Fields) : Except Fault Payload :=
  let kind := (fields.get? "kind").getD .null
  if kind.isText "message_approved" then
    match Text.Hex.decode (textOr fields "payload" "") with
    | none => .error (.badValue "payload is not hexadecimal")
    | some bytes => .ok (.message {
        sourceChain := textOf fields "source_chain"
        messageId := textOf fields "message_id"
        sourceAddress := textOf fields "source_address"
        contractAddress := textOf fields "contract_address"
        payloadHash := textOf fields "payload_hash"
        payload := bytes
        availableGasBalance := textOr fields "available_gas_balance" "0"
        taskItemId := (fields.get? "task_item_id").getD .null
        extra := (fields.get? "extra").getD .null })
  else if kind.isText "gateway" then .ok (.gateway (textOr fields "execute_data" ""))
  else if kind.isText "refund" then .ok (.refund {
      messageId := textOr fields "message_id" ""
      recipient := textOr fields "refund_recipient_address" ""
      tokenId := (fields.get? "token_id").getD .null
      amount := textOr fields "amount" "" })
  else if kind.isText "cross_chain" then .ok (.crossChain (textOr fields "tx_hash" ""))
  else .error (.badValue ("unknown payload kind: " ++ Json.Style.message.write kind))

/-- The payload that a stored value denotes. -/
def ofJson : Json → Except Fault Payload
  | .obj fields => ofFields fields
  | value => .error (.notAnObject value.kind "get")

end ChainRelay.Payload
