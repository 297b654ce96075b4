import ChainRelay.Text.Digit

/-!
# Numbers written as text

An optional sign, then decimal digits of any script, with single underscores allowed between
digits and blanks around the whole. More than 4300 digits are refused in a whole number. A real
number may have a fraction and an exponent, and there are words for what is beyond all bounds or
undefined.

## Implementation notes

In a text of ASCII characters only the plain blanks count. A text with any other character may
have all blanks beyond ASCII as well, but still not the information separators.
-/

namespace ChainRelay.Text

/-- Why a text is no whole number. -/
inductive NumeralError where
  | malformed
  /-- It has more digits than are read. -/
  | tooLong (digits : Nat)
  deriving DecidableEq, Repr

/-- The digits at the front of a text, with the underscores among them. -/
def digitRun (cs : List Char) : List Char :=
  cs.takeWhile fun c => c = '_' || (digitValue? c).isSome

/-- Whether each underscore stands between two digits. -/
def isSpaced : List Char → Bool
  | [] => false
  | [c] => c ≠ '_'
  | '_' :: _ => false
  | _ :: '_' :: rest => isSpaced rest
  | _ :: rest => isSpaced rest

/-- A blank that may stand around a numeral. -/
def isNumeralBlank (c : Char) : Bool :=
  isPlainBlank c || (0x7F < c.toNat && isBlank c)

/-- The most digits that are read. -/
def digitLimit : Nat := 4300

/-- The whole number that a text denotes. Digits are counted before it is seen what follows them. -/
def readInt (s : String) : Except NumeralError Int :=
  let cs := trimBoth isNumeralBlank s.toList
  let (negative, cs) := match cs with
    | '-' :: rest => (true, rest)
    | '+' :: rest => (false, rest)
    | _ => (false, cs)
  let run := digitRun cs
  let ds := run.filterMap digitValue?
  if !isSpaced run then .error .malformed
  else if digitLimit < ds.length then .error (.tooLong ds.length)
  else if run.length < cs.length then .error .malformed
  else
    let n : Int := Int.ofNat (ds.foldl (fun n d => 10 * n + d) 0)
    .ok (if negative then -n else n)

/-- The whole number that a text denotes, if it denotes one. -/
def toInt? (s : String) : Option Int := (readInt s).toOption

/-- What is said of a whole number with too many digits. -/
def tooLongText (digits : Nat) : String :=
  "Exceeds the limit (" ++ toString digitLimit ++ " digits) for integer string conversion: value " ++
    "has " ++ toString digits ++
    " digits; use sys.set_int_max_str_digits() to increase the limit"

/-! ### Real numbers -/

/-- A character, or the plain digit of its value. -/
def plainDigit (c : Char) : Char :=
  match digitValue? c with
  | some d => Char.ofNat ('0'.toNat + d)
  | none => c

/-- Characters without the underscores between two digits. -/
def dropUnderscores : List Char → List Char
  | a :: '_' :: b :: rest =>
    if a.isDigit && b.isDigit then a :: dropUnderscores (b :: rest)
    else a :: '_' :: dropUnderscores (b :: rest)
  | c :: rest => c :: dropUnderscores rest
  | [] => []

/-- Characters without the sign in front of them. -/
def dropSign : List Char → List Char
  | '-' :: rest | '+' :: rest => rest
  | cs => cs

/-- Whether characters are an exponent, or none are left. -/
def isExponent : List Char → Bool
  | [] => true
  | c :: rest =>
    let digits := dropSign rest
    (c = 'e' || c = 'E') && !digits.isEmpty && digits.all Char.isDigit

/-- Whether characters are digits, perhaps with a point among them, and perhaps an exponent. -/
def isDecimal (cs : List Char) : Bool :=
  let whole := cs.takeWhile Char.isDigit
  let (fraction, rest) := match cs.drop whole.length with
    | '.' :: rest => (rest.takeWhile Char.isDigit, rest.dropWhile Char.isDigit)
    | rest => ([], rest)
  !(whole ++ fraction).isEmpty && isExponent rest

/-- Whether a text denotes a real number. -/
def isReal (s : String) : Bool :=
  let cs := (trimBoth isNumeralBlank s.toList).map plainDigit
  let cs := dropSign (dropUnderscores cs)
  isDecimal cs || ["inf", "infinity", "nan"].contains (String.ofList (cs.map Char.toLower))

end ChainRelay.Text
