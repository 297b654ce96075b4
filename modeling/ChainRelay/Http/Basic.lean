import ChainRelay.Http.Url
import ChainRelay.Json.Access
import ChainRelay.Log.Line
import ChainRelay.Text.Encoding
import ChainRelay.World.Collaborators

/-!
# Exchanges over HTTP

A service is asked by a request and answers with a status and a text, unless it cannot be reached.
What carries the requests is a network with a state of its own; it also takes the log lines that
are written beside an exchange. An inquiry that cannot be put into a request is a fault of its own
and reaches no network.

## Implementation notes

`Call` is `Answers` under another name, so that what is written as a computation here can be used
as the answer of a collaborator.
-/

namespace ChainRelay.Http

/-- The methods in use. -/
inductive Method where
  | get
  | post
  deriving DecidableEq, Repr

/-- The word for a method. -/
def Method.word : Method → String
  | get => "GET"
  | post => "POST"

/-- What a request carries. -/
inductive Body where
  | empty
  | json (value : Json)
  | bytes (content : List UInt8)
  deriving Inhabited

/-- A request to a service. -/
structure Request where
  method : Method
  url : Url
  /-- What ties the request to others that belong together. -/
  correlation : Option String := none
  body : Body := .empty

/-- What is to be asked of a service. -/
structure Inquiry where
  method : Method
  /-- The address of the service. -/
  base : Url
  /-- What is asked for there. -/
  reference : String
  query : List (String × String) := []
  correlation : Option String := none
  body : Body := .empty

/-- The request that asks something. -/
def Inquiry.request (inquiry : Inquiry) : Except Fault Request := do
  let url ← inquiry.base.join inquiry.reference
  if inquiry.correlation.any fun id => id.toList.any fun c => 0x80 ≤ c.toNat then
    throw (.notEncodable "a header holds plain characters")
  let url ← url.withFields inquiry.query
  match inquiry.body with
  | .json value =>
    if value.isFinite then pure () else throw (.badValue "a number that is not finite")
  | _ => pure ()
  return { method := inquiry.method, url, correlation := inquiry.correlation, body := inquiry.body }

/-- An answer. -/
structure Reply where
  status : Int
  text : String

namespace Reply

/-- Whether the request was carried out. -/
def isSuccess (reply : Reply) : Bool := 200 ≤ reply.status && reply.status ≤ 299

/-- Whether the request was refused, or the service failed. -/
def isError (reply : Reply) : Bool := 400 ≤ reply.status && reply.status ≤ 599

/-- The text without a byte order mark in front of it. -/
def plainText (reply : Reply) : String :=
  match reply.text.toList with
  | c :: rest => if c.toNat = 0xFEFF then String.ofList rest else reply.text
  | [] => reply.text

/-- The value that the text denotes. Its bytes may be those of another encoding. -/
def json (reply : Reply) : Except Fault Json :=
  let content := Text.Utf8.encode reply.text.toList
  match Text.Encoding.detect content with
  | .bytes => Json.ofText reply.plainText
  | wide =>
    match wide.decode? content with
    | some cs => Json.ofText (String.ofList cs)
    | none => .error (.notDecodable "units without a meaning")

end Reply

/-- What carries requests: an exchange ends with an answer or with the reason why there is none. -/
structure Network (σ : Type) where
  exchange : Request → σ → Except String Reply × σ
  log : LogLine → σ → σ

/-- A computation on the state of a network. -/
abbrev Call (σ α : Type) := ExceptT Fault (StateM σ) α

namespace Network

variable {σ : Type}

/-- Ask something. -/
def send (net : Network σ) (inquiry : Inquiry) : Call σ (Except String Reply) := do
  let request ← inquiry.request
  fun s =>
    let (answer, s) := net.exchange request s
    (.ok answer, s)

/-- Write a log line. -/
def report (net : Network σ) (line : LogLine) : Call σ Unit :=
  fun s => (.ok (), net.log line s)

/-- Ask a service that must be reached; `asked` names the inquiry in the fault. -/
def reach (net : Network σ) (asked : String) (inquiry : Inquiry) : Call σ Reply := do
  match ← net.send inquiry with
  | .ok reply => return reply
  | .error reason => throw (.dependency (asked ++ " failed: " ++ reason))

end Network

end ChainRelay.Http
