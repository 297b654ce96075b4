import ChainRelay.Fault
import ChainRelay.Json.Parser
import ChainRelay.Json.Same
import ChainRelay.Text.Numeral

/-!
# Taking values apart

How the relayer reads values whose shape it does not control: members of objects, whole numbers,
lists and objects, each with the fault that a value of the wrong kind is.
-/

namespace ChainRelay.Json

/-- The value that a text denotes. -/
def ofText (text : String) : Except Fault Json :=
  match parse text with
  | .ok value => .ok value
  | .error .malformed => .error .badJson
  | .error (.tooDeep isObject) => .error (.tooDeep isObject)
  | .error (.tooLong digits) => .error (.badValue (Text.tooLongText digits))

/-- A member of an object, if it is there. -/
def get (value : Json) (name : String) : Except Fault (Option Json) :=
  match value with
  | obj fields => .ok (Fields.get? fields name)
  | _ => .error (.notAnObject value.kind "get")

/-- A member of an object, `null` if it is not there. -/
def member (value : Json) (name : String) : Except Fault Json :=
  match value with
  | obj fields => .ok ((Fields.get? fields name).getD .null)
  | _ => .error (.notAnObject value.kind "get")

/-- A member that must be there. -/
def need (value : Json) (name : String) : Except Fault Json :=
  match value with
  | obj fields =>
    match Fields.get? fields name with
    | some v => .ok v
    | none => .error (.missingField name)
  | str _ | torn _ => .error (.wrongKind "string indices must be integers, not \x27str\x27")
  | arr _ => .error (.wrongKind "list indices must be integers or slices, not str")
  | _ => .error (.wrongKind ("\x27" ++ value.kind.word ++ "\x27 object is not subscriptable"))

/-- How many characters of a text that is no number are shown. -/
def shownLimit : Nat := 200

/-- The fault that a text is no number, with the text between quotes. -/
def notANumber (shown : String) : Fault :=
  .badValue ("invalid literal for int() with base 10: " ++
    String.ofList (shown.toList.take shownLimit))

/-- The whole number that a value denotes: of a floating number its whole part, of a text the
number written in it. -/
def toInt : Json → Except Fault Int
  | int n => .ok n
  | bool b => .ok (if b then 1 else 0)
  | float x =>
    match Decimal.ofFloat? x with
    | some q => .ok (Decimal.truncate q)
    | none =>
      if x.isNaN then .error (.badValue "cannot convert float NaN to integer")
      else .error (.outOfRange "cannot convert float infinity to integer")
  | str s =>
    match Text.readInt s with
    | .ok n => .ok n
    | .error (.tooLong digits) => .error (.badValue (Text.tooLongText digits))
    | .error .malformed => .error (notANumber (Text.quoted s))
  | torn points => .error (notANumber (Text.quotedPoints points))
  | value => .error (.wrongKind ("int() argument must be a string, a bytes-like object or a " ++
      "real number, not \x27" ++ value.kind.word ++ "\x27"))

/-- The parts of a value: items of a list, names of an object, characters of a text. -/
def parts? : Json → Option (List Json)
  | arr items => some items
  | obj fields => some (fields.map fun m => str m.1)
  | str s => some (s.toList.map fun c => str (String.singleton c))
  | torn points => some (points.map fun n => ofPoints [n])
  | _ => none

/-- The parts of a value that must have parts. -/
def parts (value : Json) : Except Fault (List Json) :=
  match value.parts? with
  | some items => .ok items
  | none => .error (.wrongKind ("\x27" ++ value.kind.word ++ "\x27 object is not iterable"))

/-- The name under which a value can be a member. -/
def asName : Json → Except Fault String
  | str s => .ok s
  | torn points => .ok (textOf points)
  | arr _ => .error (.wrongKind "unhashable type: \x27list\x27")
  | obj _ => .error (.wrongKind "unhashable type: \x27dict\x27")
  | value => .ok value.encode

/-- One member given as a pair: what names it, and its value. -/
def asPair (index : Nat) (value : Json) : Except Fault (Json × Json) :=
  match value.parts? with
  | none => .error (.wrongKind ("cannot convert dictionary update sequence element #" ++
      toString index ++ " to a sequence"))
  | some [name, v] => do
    let _ ← name.asName
    .ok (name, v)
  | some items => .error (.badValue ("dictionary update sequence element #" ++ toString index ++
      " has length " ++ toString items.length ++ "; 2 is required"))

/-- Set a member whose name may be a number. Names that are the same value are one name, which
keeps its first form. -/
def putPair : List (Json × Json) → Json → Json → List (Json × Json)
  | [], name, v => [(name, v)]
  | (n, old) :: rest, name, v =>
    if same n name then (n, v) :: rest else (n, old) :: putPair rest name v

/-- Members given as pairs, set one after the other. -/
def collectPairs : Nat → List (Json × Json) → List Json → Except Fault (List (Json × Json))
  | _, done, [] => .ok done
  | index, done, item :: rest => do
    let (name, v) ← item.asPair index
    collectPairs (index + 1) (putPair done name v) rest

/-- The members of an object, or of a list of pairs. Two members whose names are different values
with one text, such as a number and its digits, are both kept. -/
def toFields (value : Json) : Except Fault Fields :=
  match value with
  | obj fields => .ok fields
  | _ => do
    let pairs ← collectPairs 0 [] (← value.parts)
    pairs.mapM fun p => do return (← p.1.asName, p.2)

/-- The members of an object, one after the other. -/
def members (value : Json) : Except Fault Fields :=
  match value with
  | obj fields => .ok fields
  | _ => .error (.notAnObject value.kind "items")

end ChainRelay.Json
