import ChainRelay.Json.Printer
import ChainRelay.Time.Quantity

/-!
# Objects of options

How values that somebody wrote by hand are read: every member may be missing, and a value of the
wrong kind counts as a plain one of the right kind. Nothing here fails.
-/

namespace ChainRelay.Json.Options

/-- A member of an object. -/
def field? (options : Json) (name : String) : Option Json :=
  match options with
  | .obj fields => Fields.get? fields name
  | _ => none

/-- A member, `null` if it is missing. -/
def field (options : Json) (name : String) : Json := (field? options name).getD .null

/-- A member that is neither missing nor `null`. -/
def given? (options : Json) (name : String) : Option Json :=
  match field? options name with
  | some .null => none
  | other => other

/-- The whole number that a value stands for. -/
def wholeOf : Json → Int
  | .int n => n
  | .bool b => if b then 1 else 0
  | .float x => (Quantity.real x).truncated
  | _ => 0

/-- The items of a list. -/
def itemsOf : Json → List Json
  | .arr items => items
  | _ => []

/-- The members of an object. -/
def membersOf : Json → Fields
  | .obj fields => fields
  | _ => []

/-- A text. -/
def text (options : Json) (name fallback : String) : String :=
  ((field? options name).map Json.shown).getD fallback

/-- A text that may be missing. -/
def text? (options : Json) (name : String) : Option String := (given? options name).map Json.shown

/-- A whole number. -/
def number (options : Json) (name : String) (fallback : Int) : Int :=
  ((given? options name).map wholeOf).getD fallback

/-- A number that may be missing. -/
def quantity? (options : Json) (name : String) : Option Quantity :=
  (given? options name).bind Quantity.ofJson?

/-- A number. -/
def quantity (options : Json) (name : String) (fallback : Quantity) : Quantity :=
  (quantity? options name).getD fallback

/-- A switch. -/
def flag (options : Json) (name : String) (fallback : Bool) : Bool :=
  ((field? options name).map Json.truthy).getD fallback

/-- A list. -/
def items (options : Json) (name : String) : List Json := itemsOf (field options name)

/-- An object. -/
def members (options : Json) (name : String) : Fields := membersOf (field options name)

end ChainRelay.Json.Options
