import ChainRelay.Json.Access
import ChainRelay.World.Collaborators

/-!
# The cache in a shared store

The operations of the cache as commands to a store that several relayers share. Values are kept as
JSON text; lock tokens are kept as they are, so that the store can compare them.
-/

namespace ChainRelay.RemoteCache

/-- A command with its arguments and options. -/
structure Command where
  name : String
  arguments : List Json := []
  options : Fields := []

/-- How a store answers commands. -/
abbrev Remote (σ : Type) := Command → Answers σ Json

variable {σ : Type}

/-- A computation on the state of a store. -/
abbrev Call (σ α : Type) := ExceptT Fault (StateM σ) α

/-- Carry out a command. -/
def run (r : Remote σ) (command : Command) : Call σ Json := r command

/-- A time to live among the options of a command. -/
def lifetime (ttl : Option Quantity) : String × Json :=
  ("ex", (ttl.map Quantity.toJson).getD .null)

/-- The script that removes a key if its value is a given one. The store runs it in one step. -/
def eraseIfEqualScript : String := "\n".intercalate [
  "",
  "if redis.call(\"get\", KEYS[1]) == ARGV[1] then",
  "    return redis.call(\"del\", KEYS[1])",
  "end",
  "return 0",
  ""]

/-- The value of a key, `null` if it has none. -/
def get (r : Remote σ) (key : String) : Call σ Json := do
  match ← run r { name := "get", arguments := [.str key] } with
  | .null => return .null
  | .str text => Json.ofText text
  | other => throw (.wrongKind ("a cached value is a text, not " ++ other.kind.word))

/-- Set a value. -/
def set (r : Remote σ) (key : String) (value : Json) (ttl : Option Quantity) : Call σ Unit := do
  let _ ← run r {
    name := "set", arguments := [.str key, .str value.encode], options := [lifetime ttl] }

/-- Set a text unless the key has a value, and say whether it was set. -/
def setIfAbsent (r : Remote σ) (key text : String) (ttl : Quantity) : Call σ Bool := do
  let answer ← run r {
    name := "set", arguments := [.str key, .str text]
    options := [("nx", .bool true), lifetime (some ttl)] }
  return answer.truthy

/-- Remove a key. -/
def erase (r : Remote σ) (key : String) : Call σ Unit := do
  let _ ← run r { name := "delete", arguments := [.str key] }

/-- Remove a key if its value is this text, and say whether it was. -/
def eraseIfEqual (r : Remote σ) (key text : String) : Call σ Bool := do
  let answer ← run r {
    name := "eval"
    arguments := [.str eraseIfEqualScript, .int 1, .str key, .str text] }
  return answer.truthy

/-- The keys that match a pattern. The store may name a key more than once. -/
def scan (r : Remote σ) (pattern : String) (count : Int) : Call σ (List Json) := do
  let answer ← run r {
    name := "scan_iter", options := [("match", .str pattern), ("count", .int count)] }
  answer.parts

/-- How many keys are looked at in one step of a scan. -/
def scanCount : Int := 100

/-- Leave the store. -/
def close (r : Remote σ) : Call σ Unit := do
  let _ ← run r { name := "aclose" }

end ChainRelay.RemoteCache
