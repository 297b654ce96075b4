import ChainRelay.Http.Basic

/-!
# The hub over HTTP

Tasks are read, events are posted, and requests are broadcast to contracts. Any status outside the
two hundreds is a failure of the hub.
-/

namespace ChainRelay

/-- A task as the hub writes it. -/
def HubTask.ofJson (item : Json) : Except Fault HubTask := do
  let id ← item.need "id"
  let type ← item.need "type"
  let body ← ((← item.member "task").orElse (.obj [])).toFields
  return { id := id.shown, type := type.shown, body := .obj body }

/-- The answer to the event at a place in a post, as the hub writes it. -/
def EventResult.ofJson (place : Nat) (item : Json) : Except Fault EventResult := do
  let index ← ((← item.get "index").getD (.int place)).toInt
  let status ← item.member "status"
  let error ← item.member "error"
  let retriable ← item.member "retriable"
  return { index, accepted := status.isText "ACCEPTED", error, retriable := retriable.truthy }

/-- A broadcast status as the hub writes it. -/
def BroadcastStatus.ofJson (status : Json) : Except Fault BroadcastStatus :=
  match status.str?.bind BroadcastStatus.ofWord? with
  | some known => .ok known
  | none => .error (.dependency ("unknown broadcast status: " ++ Json.Style.message.write status))

namespace Http

variable {σ : Type}

/-- A hub behind a network. -/
structure HubService (σ : Type) where
  net : Network σ
  base : Url
  /-- The chain whose events are posted. -/
  sourceChain : String

namespace HubService

/-- Ask the hub and read its answer. -/
def ask (s : HubService σ) (inquiry : Inquiry) : Call σ Json := do
  let asked := "hub request " ++ inquiry.method.word ++ " " ++ inquiry.reference
  let reply ← s.net.reach asked inquiry
  if reply.isSuccess then reply.json
  else throw (.dependency (asked ++ " failed: status " ++ toString reply.status))

/-- The tasks for a chain after a given one. -/
def tasks (s : HubService σ) (chain : String) (after : Option String) (limit : Int) :
    Call σ (List HubTask) := do
  let start := after.toList.filterMap fun id => if id = "" then none else some ("after", id)
  let data ← s.ask {
    method := .get, base := s.base, reference := "/chains/" ++ chain ++ "/tasks"
    query := ("limit", toString limit) :: start }
  let items ← ((← data.member "tasks").orElse (.arr [])).parts
  items.mapM fun item => HubTask.ofJson item

/-- Post events. The hub has to answer for each of them. -/
def post (s : HubService σ) (events : List Json) (correlation : String) :
    Call σ (List EventResult) := do
  let data ← s.ask {
    method := .post, base := s.base, reference := "/chains/" ++ s.sourceChain ++ "/events"
    correlation := if correlation = "" then none else some correlation
    body := .json (.obj [("events", .arr events)]) }
  let items ← ((← data.member "results").orElse (.arr [])).parts
  let results ← items.zipIdx.mapM fun (item, place) => EventResult.ofJson place item
  if results.length = events.length then return results
  else throw (.dependency "hub did not return a result for every event")

/-- The path of the broadcasts to a contract. -/
def broadcasts (contract : String) : String := "/contracts/" ++ contract ++ "/broadcasts"

/-- Broadcast a request; the answer names the broadcast. -/
def broadcast (s : HubService σ) (request : Fields) (contract : String) : Call σ String := do
  let data ← s.ask {
    method := .post, base := s.base, reference := broadcasts contract, body := .json (.obj request) }
  let id ← data.member "broadcastID"
  if id.truthy then return id.shown
  else throw (.dependency "hub broadcast response has no broadcastID")

/-- The status of a broadcast. -/
def status (s : HubService σ) (broadcast contract : String) : Call σ BroadcastStatus := do
  let data ← s.ask {
    method := .get, base := s.base, reference := broadcasts contract ++ "/" ++ broadcast }
  BroadcastStatus.ofJson (← data.member "status")

/-- The service as a collaborator. -/
def hub (s : HubService σ) : Hub σ where
  tasks chain after limit := s.tasks chain after limit
  post events correlation := s.post events correlation
  broadcast request contract := s.broadcast request contract
  status broadcast contract := s.status broadcast contract

end HubService

end Http

end ChainRelay
