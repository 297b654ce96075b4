import ChainRelay.Decimal.Layout
import ChainRelay.Json.Basic
import ChainRelay.Text.Quoted

/-!
# Texts of JSON values

One printer with two styles: JSON text, and the text used in messages and keys. Both put a space
after each comma and colon and keep the order of members; they differ in the words for nothing,
true and false, in how a string is quoted and in the names of the special floating numbers.
-/

namespace ChainRelay.Json

/-- The choices of one way to write values. -/
structure Style where
  nothing : String
  yes : String
  no : String
  text : String → String
  points : List Nat → String
  number : Float → String

/-- JSON text. -/
def Style.json : Style :=
  ⟨"null", "true", "false", Text.escaped, Text.escapedPoints, Decimal.Layout.json.write⟩

/-- The text of a value inside a message. -/
def Style.message : Style :=
  ⟨"None", "True", "False", Text.quoted, Text.quotedPoints, Decimal.Layout.plain.write⟩

mutual

/-- The text of a value. -/
def Style.write (style : Style) : Json → String
  | .null => style.nothing
  | .bool b => if b then style.yes else style.no
  | .int n => toString n
  | .float x => style.number x
  | .str s => style.text s
  | .torn points => style.points points
  | .arr items => "[" ++ style.writeItems items ++ "]"
  | .obj fields => "\x7b" ++ style.writeFields fields ++ "\x7d"

/-- The texts of the items of a list, with commas between them. -/
def Style.writeItems (style : Style) : List Json → String
  | [] => ""
  | [x] => style.write x
  | x :: rest => style.write x ++ ", " ++ style.writeItems rest

/-- The texts of the members of an object, with commas between them. -/
def Style.writeFields (style : Style) : List (String × Json) → String
  | [] => ""
  | [(name, x)] => style.text name ++ ": " ++ style.write x
  | (name, x) :: rest => style.text name ++ ": " ++ style.write x ++ ", " ++ style.writeFields rest

end

/-- The value as JSON text. -/
def encode (value : Json) : String := Style.json.write value

/-- The value as it appears in messages and keys: a string as it is, anything else in the style of
messages. -/
def shown : Json → String
  | .str s => s
  | .torn points => textOf points
  | value => Style.message.write value

@[simp] theorem shown_str (s : String) : shown (.str s) = s := rfl

end ChainRelay.Json
