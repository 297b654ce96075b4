import ChainRelay.Text.Utf8

/-!
# JSON values

The one dynamic type of the library. Hub tasks, hub events, broadcast requests and continuation
state are JSON whose shape the relayer does not control, so they are kept as they came.

## Implementation notes

An object is a list of fields in the order in which their names first appeared: where a value is
turned into text, that order shows. `Fields.put` keeps names distinct. Whole numbers and floating
numbers are told apart because their texts differ (`100` and `100.0`). JSON text can escape half of
a surrogate pair without the other half. A string with such a half consists of no characters, so it
is a constructor of its own; in the name of a member a half becomes the replacement character.
-/

namespace ChainRelay

/-- A JSON value. -/
inductive Json where
  | null
  | bool (b : Bool)
  | int (n : Int)
  | float (x : Float)
  | str (s : String)
  /-- A string in which half of a surrogate pair stands alone, as code points. -/
  | torn (points : List Nat)
  | arr (items : List Json)
  | obj (fields : List (String × Json))
  deriving Inhabited

/-- The named members of an object, in order. -/
abbrev Fields := List (String × Json)

namespace Fields

/-- The value of a member. -/
def get? (fields : Fields) (name : String) : Option Json :=
  List.lookup name fields

/-- Set a member: a known name keeps its place, a new one comes last. -/
def put : Fields → String → Json → Fields
  | [], name, value => [(name, value)]
  | (n, v) :: rest, name, value =>
    if n = name then (n, value) :: rest else (n, v) :: put rest name value

/-- Members set one after the other. -/
def ofList (members : List (String × Json)) : Fields :=
  members.foldl (fun fields m => fields.put m.1 m.2) []

end Fields

namespace Json

/-- Whether a value is `null`. -/
def isNull : Json → Bool
  | null => true
  | _ => false

/-- What counts as false: nothing, zero, and whatever is empty. -/
def truthy : Json → Bool
  | null => false
  | bool b => b
  | int n => n != 0
  | float x => !(x == 0.0)
  | str s => s != ""
  | torn points => !points.isEmpty
  | arr items => !items.isEmpty
  | obj fields => !fields.isEmpty

/-- The value itself unless it counts as false. -/
def orElse (value fallback : Json) : Json :=
  if value.truthy then value else fallback

/-- The text of a string value. -/
def str? : Json → Option String
  | str s => some s
  | _ => none

/-- Whether the value is this text. -/
def isText (value : Json) (s : String) : Bool :=
  match value with
  | str t => t == s
  | _ => false

mutual

/-- Whether no number in a value is beyond all bounds, or none at all. -/
def isFinite : Json → Bool
  | float x => x.isFinite
  | arr items => areFinite items
  | obj fields => haveFinite fields
  | _ => true

/-- Whether all items are finite. -/
def areFinite : List Json → Bool
  | [] => true
  | item :: rest => isFinite item && areFinite rest

/-- Whether all members are finite. -/
def haveFinite : List (String × Json) → Bool
  | [] => true
  | (_, value) :: rest => isFinite value && haveFinite rest

end

/-- The characters of code points. -/
def textOf (points : List Nat) : String := String.ofList (points.map Text.Utf8.charOf)

/-- A string of code points. -/
def ofPoints (points : List Nat) : Json :=
  if points.all fun n => decide n.isValidChar then str (textOf points) else torn points

/-- An optional text: nothing is `null`. -/
def ofText? : Option String → Json
  | none => null
  | some s => str s

/-- The code points of a text are that text. -/
@[simp] theorem ofPoints_map_toNat (s : String) : ofPoints (s.toList.map Char.toNat) = str s := by
  have valid (c : Char) : c.toNat.isValidChar := c.valid
  simp [ofPoints, textOf, valid, Function.comp_def]

@[simp] theorem truthy_null : truthy null = false := rfl

@[simp] theorem truthy_str (s : String) : truthy (str s) = (s != "") := rfl

end Json

end ChainRelay
