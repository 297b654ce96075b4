import ChainRelay.Json.Printer
import ChainRelay.Time.Quantity
import ChainRelay.WorkItem.Basic

/-!
# Faults

Everything that can go wrong, by cause, with the title and the text that reports show. Faults of
the domain are those that the relayer raises by its own rules; only the dependency faults among
them are contained item by item.
-/

namespace ChainRelay

/-- The kinds of JSON values, for messages about values of the wrong kind. -/
inductive Json.Kind where
  | nothing
  | truth
  | whole
  | real
  | text
  | list
  | object
  deriving DecidableEq, Repr

namespace Json

/-- The kind of a value. -/
def kind : Json → Kind
  | null => .nothing
  | bool _ => .truth
  | int _ => .whole
  | float _ => .real
  | str _ | torn _ => .text
  | arr _ => .list
  | obj _ => .object

/-- The word for a kind in messages. -/
def Kind.word : Kind → String
  | nothing => "NoneType"
  | truth => "bool"
  | whole => "int"
  | real => "float"
  | text => "str"
  | list => "list"
  | object => "dict"

end Json

/-- A fault. -/
inductive Fault where
  /-- Input that breaks a rule of the domain. -/
  | validation (text : String)
  /-- A broken rule inside the relayer. -/
  | invariant (text : String)
  /-- A collaborator that failed. -/
  | dependency (text : String)
  /-- A batch that outlived the transaction timeout of its queue. -/
  | queueTimeout (family : Family) (seconds : Quantity)
  /-- An event that the hub wants to see again later. -/
  | retriableRejection (eventId : String) (detail : Json)
  /-- A failure without a cause of its own. -/
  | failure (text : String)
  /-- Something took too long. -/
  | timeout (text : String)
  /-- A member was asked of a value that is no object. -/
  | notAnObject (kind : Json.Kind) (operation : String)
  /-- A required member is missing. -/
  | missingField (name : String)
  /-- A value of the wrong kind. -/
  | wrongKind (text : String)
  /-- A value of the right kind that is not allowed. -/
  | badValue (text : String)
  /-- A text that is not JSON. -/
  | badJson
  /-- A text with lists and objects that are nested too deep, the last one being an object or a
  list. -/
  | tooDeep (isObject : Bool)
  /-- A number beyond the range of its use. -/
  | outOfRange (text : String)
  /-- A text too long to be held. -/
  | tooLong (text : String)
  /-- A file that does not exist. -/
  | missingFile (text : String)
  /-- An instant or a name beyond what the system takes. -/
  | system (text : String)
  /-- An address that is not well formed. -/
  | badAddress (text : String)
  /-- A character outside of the characters that may be sent. -/
  | notEncodable (text : String)
  /-- Bytes that do not stand for characters. -/
  | notDecodable (text : String)
  deriving Inhabited

namespace Fault

/-- Whether the fault belongs to a failing collaborator. -/
def isDependency : Fault → Bool
  | dependency _ | queueTimeout _ _ | retriableRejection _ _ => true
  | _ => false

/-- Whether the fault is one of the domain. -/
def isDomain : Fault → Bool
  | validation _ | invariant _ => true
  | fault => fault.isDependency

/-- The title of a fault in reports. -/
def title : Fault → String
  | validation _ => "DomainValidationError"
  | invariant _ => "DomainInvariantError"
  | dependency _ => "DomainDependencyError"
  | queueTimeout _ _ => "QueueTransactionTimeoutError"
  | retriableRejection _ _ => "HubRetriableEventError"
  | failure _ => "RuntimeError"
  | timeout _ => "TimeoutError"
  | notAnObject _ _ => "AttributeError"
  | missingField _ => "KeyError"
  | wrongKind _ => "TypeError"
  | badValue _ => "ValueError"
  | badJson => "JSONDecodeError"
  | tooDeep _ => "RecursionError"
  | outOfRange _ => "OverflowError"
  | tooLong _ => "MemoryError"
  | missingFile _ => "FileNotFoundError"
  | system _ => "OSError"
  | badAddress _ => "InvalidURL"
  | notEncodable _ => "UnicodeEncodeError"
  | notDecodable _ => "UnicodeDecodeError"

/-- The text of a fault. -/
def message : Fault → String
  | validation text | invariant text | dependency text | failure text | timeout text
  | wrongKind text | badValue text | outOfRange text | tooLong text | missingFile text
  | system text | badAddress text | notEncodable text | notDecodable text => text
  | queueTimeout family seconds =>
    "queue transaction for " ++ family.word ++ " timed out after " ++ seconds.text ++ "s"
  | retriableRejection eventId detail =>
    "hub rejected event " ++ eventId ++ " as retriable: " ++ detail.shown
  | notAnObject kind operation =>
    "\x27" ++ kind.word ++ "\x27 object has no attribute \x27" ++ operation ++ "\x27"
  | missingField name => Text.quoted name
  | badJson => "malformed JSON"
  | tooDeep isObject =>
    "maximum recursion depth exceeded while decoding a JSON " ++
      (if isObject then "object" else "array") ++ " from a unicode string"

end Fault

/-- Check that a quantity can be added to a reading of a clock. -/
def Quantity.check (q : Quantity) : Except Fault Unit :=
  if q.isTooLarge then .error (.outOfRange "int too large to convert to float") else .ok ()

theorem Quantity.check_eq_ok {q : Quantity} (h : q.isTooLarge = false) : q.check = .ok () := by
  rw [check, h, if_neg Bool.false_ne_true]

end ChainRelay
