import ChainRelay.Text.Hex
import ChainRelay.Text.Utf8

/-!
# Percent encoding

A character that may not stand in an address is written as its bytes, each as a percent sign and two
hexadecimal digits. What is written so already is left as it is. When read, a percent sign without
two digits stands for itself.
-/

namespace ChainRelay.Text.Percent

/-- A byte as a percent sign and two digits. -/
def encodeByte (b : UInt8) : List Char :=
  '%' :: (Hex.encodeChars [b]).map Char.toUpper

/-- A character, as it is if it is kept. -/
def encodeChar (kept : Char → Bool) (c : Char) : List Char :=
  if kept c then [c] else (Utf8.encode [c]).flatMap encodeByte

/-- Encode all characters but those that are kept. -/
def encodeAll (kept : Char → Bool) (cs : List Char) : List Char :=
  cs.flatMap (encodeChar kept)

/-- The byte of two digits. -/
def byte? (high low : Char) : Option UInt8 := do
  some (16 * (← Hex.value? high) + (← Hex.value? low))

/-- Encode all characters but those that are kept and those that are part of a byte written with a
percent sign. -/
def encode (kept : Char → Bool) : List Char → List Char
  | '%' :: a :: b :: rest =>
    if (byte? a b).isSome then '%' :: a :: b :: encode kept rest
    else encodeChar kept '%' ++ encode kept (a :: b :: rest)
  | c :: rest => encodeChar kept c ++ encode kept rest
  | [] => []

/-- The bytes of an encoded text. -/
def bytes : List Char → List UInt8
  | '%' :: a :: b :: rest =>
    match byte? a b with
    | some byte => byte :: bytes rest
    | none => Utf8.encode ['%'] ++ bytes (a :: b :: rest)
  | c :: rest => Utf8.encode [c] ++ bytes rest
  | [] => []

/-- The text that an encoded text stands for. -/
def decode (text : String) : String := String.ofList (Utf8.decode (bytes text.toList))

/-! ### Forms -/

/-- Whether a character is kept in a form. -/
def isPlain (c : Char) : Bool := c.isAlphanum || c = '_' || c = '.' || c = '-' || c = '~'

/-- A text in a form, where a plus sign stands for a space. -/
def encodePlus (text : String) : String :=
  String.ofList (text.toList.flatMap fun c =>
    if c = ' ' then ['+'] else encodeChar isPlain c)

/-- The text that a text in a form stands for. -/
def decodePlus (text : String) : String :=
  decode (String.ofList (text.toList.map fun c => if c = '+' then ' ' else c))

/-- A form: names and values. -/
def encodeForm (fields : List (String × String)) : String :=
  "&".intercalate (fields.map fun f => encodePlus f.1 ++ "=" ++ encodePlus f.2)

/-- One field of a form, whose value may be missing. -/
def decodeField (text : String) : String × String :=
  let cs := text.toList
  let name := cs.takeWhile (· ≠ '=')
  (decodePlus (String.ofList name), decodePlus (String.ofList (cs.drop (name.length + 1))))

/-- The fields of a form. -/
def decodeForm (text : String) : List (String × String) :=
  ((text.splitOn "&").filter (· ≠ "")).map decodeField

/-- The first field of each name. -/
def firstFields (fields : List (String × String)) : List (String × String) :=
  fields.foldl (fun known f => if (known.lookup f.1).isSome then known else known ++ [f]) []

end ChainRelay.Text.Percent
