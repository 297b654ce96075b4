import ChainRelay.Json.Access
import ChainRelay.Text.Base64
import ChainRelay.Text.Hex

/-!
# Requests to the contracts of the hub

Proof and verification tasks become execute messages for contracts of the hub. A message that runs
between the interchain token service of this chain and that of the hub carries its payload along.
-/

namespace ChainRelay

/-- The hub as a chain. -/
def hubChain : String := "axelar"

/-- The bytes that a Base64 text denotes. -/
def decodeBase64 (text : String) : Except Fault (List UInt8) :=
  match Text.Base64.decode text with
  | .ok bytes => .ok bytes
  | .error offence => .error (.validation ("invalid base64 value: " ++ offence.message))

/-- The addresses of the interchain token services. -/
structure TokenServices where
  hub : String
  source : String
  deriving Inhabited

namespace TokenServices

/-- A member of a message, `null` if it is missing. -/
def field (message : Fields) (name : String) : Json := (message.get? name).getD .null

/-- The message of a task, which must name its source chain and its identifier. -/
def messageOf (task : Json) : Except Fault Fields := do
  match ← task.member "message" with
  | .obj message =>
    if (field message "messageID").truthy && (field message "sourceChain").truthy then
      .ok message
    else .error (.validation "task message must carry sourceChain and messageID")
  | _ => .error (.validation "task message must carry sourceChain and messageID")

/-- The pair that identifies a message on all chains. -/
def identity (message : Fields) : Json :=
  .obj [("source_chain", field message "sourceChain"), ("message_id", field message "messageID")]

/-- The payload of a task, in hexadecimal. -/
def payloadOf (task : Json) : Except Fault Json := do
  let payload ← task.member "payload"
  let bytes ← decodeBase64 (payload.orElse (.str "")).shown
  .ok (.str (Text.Hex.encode bytes))

/-- The request for a proof that a message was approved. -/
def proofRequest (services : TokenServices) (task : Json) : Except Fault Fields := do
  let message ← messageOf task
  if (field message "sourceAddress").isText services.hub &&
      (field message "sourceChain").isText hubChain then
    let payload ← payloadOf task
    .ok [("construct_proof_with_payload", .obj [
      ("message_id", identity message),
      ("payload", payload)])]
  else .ok [("construct_proof", .arr [identity message])]

/-- The request to verify a message sent from this chain. -/
def verifyRequest (services : TokenServices) (task : Json) : Except Fault Fields := do
  let message ← messageOf task
  let destination := ((← task.member "destinationChain").orElse (.str "")).shown
  let hash ← decodeBase64 ((field message "payloadHash").orElse (.str "")).shown
  let described (chain : String) : Json := .obj [
    ("cc_id", identity message),
    ("destination_chain", .str chain),
    ("destination_address", field message "destinationAddress"),
    ("source_address", field message "sourceAddress"),
    ("payload_hash", .str (Text.Hex.encode hash))]
  if (field message "sourceAddress").isText services.source &&
      (field message "destinationAddress").isText services.hub && destination == hubChain then
    let payload ← payloadOf task
    .ok [("verify_message_with_payload", .obj [
      ("message", described hubChain),
      ("payload", payload)])]
  else .ok [("verify_messages", .arr [described destination])]

end TokenServices

end ChainRelay
