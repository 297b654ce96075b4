import ChainRelay.Json.Basic

/-!
# Reading JSON text

Beyond the standard's grammar the words `NaN`, `Infinity` and `-Infinity` are read as numbers, a
name given twice keeps its first place and its last value, and a whole number is read exactly, up
to 4300 digits. Characters below the space must be escaped inside strings.

## Implementation notes

Each step returns what is left of the text. The recursion is bounded by `fuel`, and `parse` starts
with two units for each character and two more, which are never used up: a nested value is preceded
by a character of its own and takes two. `depth` is how many lists and objects may still be opened
inside one another.
-/

namespace ChainRelay.Json

/-- Why a text is not read. -/
inductive ParseError where
  /-- It is not JSON. -/
  | malformed
  /-- It holds a whole number of more than 4300 digits. -/
  | tooLong (digits : Nat)
  /-- Its lists and objects are nested too deep, the last one being an object or a list. -/
  | tooDeep (isObject : Bool)
  deriving DecidableEq, Repr

/-- A reader of a value of type `α` at the start of a text. -/
abbrev Reads (α : Type) := List Char → Except ParseError (α × List Char)

/-- Blanks between tokens. -/
def skipBlanks (cs : List Char) : List Char :=
  cs.dropWhile fun c => c = ' ' || c = '\t' || c = '\n' || c = '\r'

/-- The value of a hexadecimal digit. -/
def hexValue? (c : Char) : Option Nat :=
  if '0' ≤ c ∧ c ≤ '9' then some (c.toNat - '0'.toNat)
  else if 'a' ≤ c ∧ c ≤ 'f' then some (c.toNat - 'a'.toNat + 10)
  else if 'A' ≤ c ∧ c ≤ 'F' then some (c.toNat - 'A'.toNat + 10)
  else none

/-- Four hexadecimal digits. -/
def readUnit : List Char → Option (Nat × List Char)
  | a :: b :: c :: d :: rest => do
    let a ← hexValue? a
    let b ← hexValue? b
    let c ← hexValue? c
    let d ← hexValue? d
    some (((a * 16 + b) * 16 + c) * 16 + d, rest)
  | _ => none

/-- The code point of one 16-bit unit, or of two that are the halves of a pair. -/
def readEscapedUnits (cs : List Char) : Option (Nat × List Char) := do
  let (high, rest) ← readUnit cs
  if 0xD800 ≤ high ∧ high < 0xDC00 then
    match rest with
    | '\\' :: 'u' :: more =>
      match readUnit more with
      | some (low, rest') =>
        if 0xDC00 ≤ low ∧ low < 0xE000 then
          return (0x10000 + (high - 0xD800) * 0x400 + (low - 0xDC00), rest')
        else return (high, rest)
      | none => return (high, rest)
    | _ => return (high, rest)
  else return (high, rest)

/-- The code points of a string up to its closing quote. -/
def readString : Nat → List Nat → List Char → Except ParseError (List Nat × List Char)
  | 0, _, _ => throw .malformed
  | _ + 1, _, [] => throw .malformed
  | fuel + 1, done, c :: rest =>
    if c = '"' then pure (done.reverse, rest)
    else if c = '\\' then
      match rest with
      | '"' :: more => readString fuel ('"'.toNat :: done) more
      | '\\' :: more => readString fuel ('\\'.toNat :: done) more
      | '/' :: more => readString fuel ('/'.toNat :: done) more
      | 'b' :: more => readString fuel (0x08 :: done) more
      | 'f' :: more => readString fuel (0x0C :: done) more
      | 'n' :: more => readString fuel ('\n'.toNat :: done) more
      | 'r' :: more => readString fuel ('\r'.toNat :: done) more
      | 't' :: more => readString fuel ('\t'.toNat :: done) more
      | 'u' :: more =>
        match readEscapedUnits more with
        | some (point, more') => readString fuel (point :: done) more'
        | none => throw .malformed
      | _ => throw .malformed
    else if c.toNat < 0x20 then throw .malformed
    else readString fuel (c.toNat :: done) rest

/-- The value of decimal digits, read from the left. -/
def natOfDigits (ds : List Char) : Nat :=
  ds.foldl (fun n d => 10 * n + (d.toNat - '0'.toNat)) 0

/-- The double nearest to `± mantissa * 10 ^ exponent`. Far outside the range of doubles the power
of ten is not computed. -/
def nearestFloat (negative : Bool) (mantissa : Nat) (exponent : Int) : Float :=
  let size := (Nat.toDigits 10 mantissa).length
  let x : Float :=
    if mantissa = 0 then 0.0
    else if 400 < exponent + size then 1.0 / 0.0
    else if exponent + size < -400 then 0.0
    else if exponent < 0 then Float.ofScientific mantissa true exponent.natAbs
    else Float.ofScientific mantissa false exponent.natAbs
  if negative then -x else x

/-- A number: an integer unless it has a fraction or an exponent. -/
def readNumber (negative : Bool) (cs : List Char) : Except ParseError (Json × List Char) :=
  let whole := cs.takeWhile Char.isDigit
  let whole := if whole.head? = some '0' then ['0'] else whole
  if whole.isEmpty then throw .malformed
  else
    let rest := cs.drop whole.length
    let (fraction, rest) := match rest with
      | '.' :: more =>
        let ds := more.takeWhile Char.isDigit
        if ds.isEmpty then ([], rest) else (ds, more.drop ds.length)
      | _ => ([], rest)
    let exponent? : Option (Int × List Char) := match rest with
      | e :: more =>
        if e = 'e' || e = 'E' then
          let (minus, more) := match more with
            | '-' :: more' => (true, more')
            | '+' :: more' => (false, more')
            | _ => (false, more)
          let ds := more.takeWhile Char.isDigit
          if ds.isEmpty then none
          else
            let n : Int := natOfDigits ds
            some (if minus then -n else n, more.drop ds.length)
        else none
      | [] => none
    match fraction, exponent? with
    | [], none =>
      if 4300 < whole.length then throw (.tooLong whole.length)
      else
        let n : Int := natOfDigits whole
        pure (.int (if negative then -n else n), rest)
    | _, _ =>
      let (exponent, rest) := exponent?.getD (0, rest)
      pure (.float (nearestFloat negative (natOfDigits (whole ++ fraction))
        (exponent - fraction.length)), rest)

/-- The text after a word. -/
def afterWord (word : String) (cs : List Char) : Option (List Char) :=
  if word.toList.isPrefixOf cs then some (cs.drop word.length) else none

/-- The words, and the numbers that are written as words. -/
def words : List (String × Json) :=
  [("null", .null), ("true", .bool true), ("false", .bool false), ("NaN", .float (0.0 / 0.0)),
    ("Infinity", .float (1.0 / 0.0)), ("-Infinity", .float (-1.0 / 0.0))]

/-- A value that is neither a string, a list nor an object. -/
def readScalar (cs : List Char) : Except ParseError (Json × List Char) :=
  match words.findSome? fun (word, value) => (afterWord word cs).map fun rest => (value, rest) with
  | some found => pure found
  | none =>
    match cs with
    | '-' :: more => readNumber true more
    | _ => readNumber false cs

mutual

/-- A value. -/
def readValue : Nat → Nat → List Char → Except ParseError (Json × List Char)
  | 0, _, _ => throw .malformed
  | fuel + 1, depth, cs =>
    match cs, depth with
    | '"' :: rest, _ => do
      let (points, rest) ← readString fuel [] rest
      pure (.ofPoints points, rest)
    | '[' :: _, 0 => throw (.tooDeep false)
    | '[' :: rest, depth + 1 =>
      match skipBlanks rest with
      | ']' :: rest => pure (.arr [], rest)
      | rest => do
        let (items, rest) ← readItems fuel depth [] rest
        pure (.arr items, rest)
    | '\x7b' :: _, 0 => throw (.tooDeep true)
    | '\x7b' :: rest, depth + 1 =>
      match skipBlanks rest with
      | '\x7d' :: rest => pure (.obj [], rest)
      | rest => do
        let (fields, rest) ← readFields fuel depth [] rest
        pure (.obj fields, rest)
    | cs, _ => readScalar cs

/-- The items of a list, up to its closing bracket. -/
def readItems : Nat → Nat → List Json → List Char → Except ParseError (List Json × List Char)
  | 0, _, _, _ => throw .malformed
  | fuel + 1, depth, done, cs => do
    let (item, rest) ← readValue fuel depth cs
    match skipBlanks rest with
    | ',' :: rest => readItems fuel depth (item :: done) (skipBlanks rest)
    | ']' :: rest => pure ((item :: done).reverse, rest)
    | _ => throw .malformed

/-- The members of an object, up to its closing brace. -/
def readFields : Nat → Nat → Fields → List Char → Except ParseError (Fields × List Char)
  | 0, _, _, _ => throw .malformed
  | fuel + 1, depth, done, cs =>
    match cs with
    | '"' :: rest => do
      let (name, rest) ← readString fuel [] rest
      match skipBlanks rest with
      | ':' :: rest =>
        let (value, rest) ← readValue fuel depth (skipBlanks rest)
        let done := done.put (textOf name) value
        match skipBlanks rest with
        | ',' :: rest => readFields fuel depth done (skipBlanks rest)
        | '\x7d' :: rest => pure (done, rest)
        | _ => throw .malformed
      | _ => throw .malformed
    | _ => throw .malformed

end

/-- How many lists and objects may be opened inside one another. -/
def depthLimit : Nat := 975

/-- Read a whole text. -/
def parse (s : String) : Except ParseError Json := do
  let cs := skipBlanks s.toList
  let (value, rest) ← readValue (2 * cs.length + 2) depthLimit cs
  if (skipBlanks rest).isEmpty then pure value else throw .malformed

end ChainRelay.Json
