import ChainRelay.Json.Access

/-!
# What the hub says

Tasks for the relayer, results for posted events, and the state of broadcasts.
-/

namespace ChainRelay

/-- A task of the hub. -/
structure HubTask where
  id : String
  type : String
  body : Json
  deriving Inhabited

/-- The hub's answer to one posted event. -/
structure EventResult where
  index : Int
  accepted : Bool
  error : Json := .null
  retriable : Bool := false
  deriving Inhabited

/-- How far a broadcast is. -/
inductive BroadcastStatus where
  | received
  | success
  | error
  deriving DecidableEq, Repr, Inhabited

namespace BroadcastStatus

/-- The hub's word for a status. -/
def word : BroadcastStatus → String
  | received => "RECEIVED"
  | success => "SUCCESS"
  | error => "ERROR"

/-- The status of a word. -/
def ofWord? : String → Option BroadcastStatus
  | "RECEIVED" => some received
  | "SUCCESS" => some success
  | "ERROR" => some error
  | _ => none

@[simp] theorem ofWord?_word (x : BroadcastStatus) : ofWord? x.word = some x := by cases x <;> rfl

end BroadcastStatus

/-- How urgent a notification is. -/
inductive Severity where
  | info
  | warn
  | error
  deriving DecidableEq, Repr, Inhabited

namespace Severity

/-- The word for a severity. -/
def word : Severity → String
  | info => "info"
  | warn => "warn"
  | error => "error"

/-- The severity of a word. -/
def ofWord? : String → Option Severity
  | "info" => some info
  | "warn" => some warn
  | "error" => some error
  | _ => none

@[simp] theorem ofWord?_word (x : Severity) : ofWord? x.word = some x := by cases x <;> rfl

end Severity

end ChainRelay
