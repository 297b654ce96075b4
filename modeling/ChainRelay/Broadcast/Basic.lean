import ChainRelay.Json.Access

/-!
# Pending broadcasts

A request to a contract of the hub that has still to be broadcast or whose broadcast is not
settled. It is kept in the cache as a JSON object; the members that are not texts or counts of the
relayer's own making are kept as they are.
-/

namespace ChainRelay

/-- A pending broadcast. -/
structure PendingBroadcast where
  request : Fields
  type : Json := .str "VERIFY"
  retry : Int := 0
  /-- The hub's name for the broadcast in flight; none if it counts as false. -/
  broadcastId : Json := .null
  /-- When the item was last broadcast or failed to be. -/
  timestamp : Int := 0
  deriving Inhabited

namespace PendingBroadcast

/-- The stored form. -/
def toJson (b : PendingBroadcast) : Json :=
  .obj [
    ("request", .obj b.request),
    ("type", b.type),
    ("retry", .int b.retry),
    ("broadcastID", b.broadcastId),
    ("timestamp", .int b.timestamp)]

/-- The pending broadcast that stored members denote. -/
def ofFields (fields : Fields) : Except Fault PendingBroadcast := do
  let request ← (((fields.get? "request").getD .null).orElse (.obj [])).toFields
  let retry ← (((fields.get? "retry").getD .null).orElse (.int 0)).toInt
  let timestamp ← (((fields.get? "timestamp").getD .null).orElse (.int 0)).toInt
  .ok {
    request
    type := (fields.get? "type").getD (.str "VERIFY")
    retry
    broadcastId := (fields.get? "broadcastID").getD .null
    timestamp }

/-- The pending broadcast that a stored value denotes. -/
def ofJson : Json → Except Fault PendingBroadcast
  | .obj fields => ofFields fields
  | value => .error (.notAnObject value.kind "get")

end PendingBroadcast

end ChainRelay
