import ChainRelay.Text.Printable

/-!
# Quoted text

Two ways to write a text between quotes. For people, in messages: between single quotes (double
ones if the text has a single and no double quote), with printable characters as they are. For
machines, in JSON: between double quotes and in ASCII alone, a character beyond the first plane as
the pair of its surrogates.
-/

namespace ChainRelay.Text

/-- The single quote. -/
def apostrophe : Char := Char.ofNat 0x27

/-- Lower-case hexadecimal digits of `n`, at least `width` of them. -/
def hexDigits (width n : Nat) : List Char :=
  let ds := Nat.toDigits 16 n
  List.replicate (width - ds.length) '0' ++ ds

/-! ### For people -/

/-- The escape of a character, in as many digits as it needs. -/
def escapeCode (c : Char) : List Char :=
  if c.toNat < 0x100 then '\\' :: 'x' :: hexDigits 2 c.toNat
  else if c.toNat < 0x10000 then '\\' :: 'u' :: hexDigits 4 c.toNat
  else '\\' :: 'U' :: hexDigits 8 c.toNat

/-- One character between the quotes `quote`. -/
def quoteChar (quote c : Char) : List Char :=
  if c = quote || c = '\\' then ['\\', c]
  else if c = '\n' then ['\\', 'n']
  else if c = '\r' then ['\\', 'r']
  else if c = '\t' then ['\\', 't']
  else if isPrintable c then [c]
  else escapeCode c

/-- A character in ASCII, escaped if it is not in it. -/
def inAscii (c : Char) : List Char := if c.toNat < 0x80 then [c] else escapeCode c

/-- A text between quotes, for a message. -/
def quoted (s : String) : String :=
  let cs := s.toList
  let quote := if cs.contains apostrophe && !cs.contains '"' then '"' else apostrophe
  String.ofList (quote :: cs.flatMap (quoteChar quote) ++ [quote])

/-- One code point between quotes. Half of a pair is no character, but it has an escape. -/
def quotePoint (quote : Char) (n : Nat) : List Char :=
  if n.isValidChar then quoteChar quote (Char.ofNat n) else '\\' :: 'u' :: hexDigits 4 n

/-- Code points between quotes, for a message. -/
def quotedPoints (points : List Nat) : String :=
  let quote := if points.contains apostrophe.toNat && !points.contains '"'.toNat then '"'
    else apostrophe
  String.ofList (quote :: points.flatMap (quotePoint quote) ++ [quote])

/-! ### In JSON -/

/-- The escape of one 16-bit unit. -/
def escapeUnit (n : Nat) : List Char := '\\' :: 'u' :: hexDigits 4 n

/-- One character of a JSON string. -/
def escapeChar (c : Char) : List Char :=
  if c = '"' || c = '\\' then ['\\', c]
  else if c = '\n' then ['\\', 'n']
  else if c = '\r' then ['\\', 'r']
  else if c = '\t' then ['\\', 't']
  else if c.toNat = 0x0C then ['\\', 'f']
  else if c.toNat = 0x08 then ['\\', 'b']
  else if 0x20 ≤ c.toNat && c.toNat < 0x7F then [c]
  else if c.toNat < 0x10000 then escapeUnit c.toNat
  else
    let n := c.toNat - 0x10000
    escapeUnit (0xD800 + n / 0x400) ++ escapeUnit (0xDC00 + n % 0x400)

/-- A text as a JSON string. -/
def escaped (s : String) : String :=
  String.ofList ('"' :: s.toList.flatMap escapeChar ++ ['"'])

/-- One code point of a JSON string. Half of a pair is no character, but it has an escape. -/
def escapePoint (n : Nat) : List Char :=
  if n.isValidChar then escapeChar (Char.ofNat n) else escapeUnit n

/-- Code points as a JSON string. -/
def escapedPoints (points : List Nat) : String :=
  String.ofList ('"' :: points.flatMap escapePoint ++ ['"'])

end ChainRelay.Text
