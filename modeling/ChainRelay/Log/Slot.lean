import ChainRelay.Json.Access

/-!
# Slots of message templates

A slot in a template says how one value is laid out: as a text, as a whole number in some base, or
as a number with a fraction, with a width and a precision. Both may be written in the template or,
as `*`, be taken from the arguments. Numbers with a fraction are rounded exactly, a half to the even
neighbour.

## Main definitions

* `Supply` — the arguments that slots take their values from
* `Slot.read` — the slot at the start of a text
* `Slot.fill` — a value in a slot, or why it does not fit
-/

namespace ChainRelay.Template

/-! ### Supply -/

/-- The arguments of a template. -/
structure Supply where
  /-- What is still to be taken, one after the other. -/
  left : List Json
  /-- What is addressed by names. -/
  named : Option Fields := none

namespace Supply

/-- The supply that arguments make: a single object that is not empty is addressed by names. -/
def ofList (arguments : List Json) : Supply :=
  match arguments with
  | [.obj (m :: rest)] => { left := arguments, named := some (m :: rest) }
  | _ => { left := arguments }

/-- Take the next argument. -/
def next (supply : Supply) : Except Fault (Json × Supply) :=
  match supply.left with
  | value :: rest => .ok (value, { supply with left := rest })
  | [] => .error (.wrongKind "not enough arguments for format string")

/-- Make the member of a name the only argument to take. -/
def select (supply : Supply) (name : String) : Except Fault Supply :=
  match supply.named with
  | some fields => do return { supply with left := [← (Json.obj fields).need name] }
  | none => .error (.wrongKind "format requires a mapping")

/-- Take the next argument, which has to be a whole number that a machine word holds. -/
def nextWhole (supply : Supply) (limit : Nat) : Except Fault (Int × Supply) := do
  let (value, supply) ← supply.next
  let n ← match value with
    | .int n => pure n
    | .bool b => pure (if b then 1 else 0)
    | _ => throw (.wrongKind "* wants int")
  if n < -(limit : Int) - 1 ∨ (limit : Int) < n then
    throw (.outOfRange "a whole number too large for its place")
  else return (n, supply)

/-- Whether nothing is left over that should have been taken. -/
def isUsed (supply : Supply) : Bool := supply.left.isEmpty || supply.named.isSome

end Supply

/-! ### Reading -/

/-- How one value is laid out. -/
structure Slot where
  left : Bool := false
  zeros : Bool := false
  plus : Bool := false
  space : Bool := false
  /-- Whether bases are marked and decimal points always written. -/
  marked : Bool := false
  width : Nat := 0
  places : Option Nat := none
  letter : Char := 's'

/-- The greatest width that can be written. -/
def widthLimit : Nat := Nat.pow 2 63 - 1

/-- The greatest precision that can be written. -/
def placesLimit : Nat := Nat.pow 2 31 - 1

/-- The greatest width of a text that can be held. -/
def heldWidth : Nat := Nat.pow 10 11

/-- The text up to the bracket that closes one that is already open, `depth` more of them being
open inside, and what follows it. -/
def nameBody : Nat → List Char → Option (List Char × List Char)
  | _, [] => none
  | 0, ')' :: rest => some ([], rest)
  | depth + 1, ')' :: rest => (nameBody depth rest).map fun r => (')' :: r.1, r.2)
  | depth, c :: rest => (nameBody (if c = '(' then depth + 1 else depth) rest).map
      fun r => (c :: r.1, r.2)

/-- Take the name of a slot, if it has one. Brackets inside a name come in pairs. -/
def takeName (cs : List Char) (supply : Supply) : Except Fault (List Char × Supply) :=
  match cs with
  | '(' :: rest =>
    match supply.named, nameBody 0 rest with
    | none, _ => .error (.wrongKind "format requires a mapping")
    | some _, none => .error (.badValue "incomplete format key")
    | some _, some (name, rest) => do return (rest, ← supply.select (String.ofList name))
  | _ => .ok (cs, supply)

/-- Take flags in front of a slot. -/
def flags : List Char → Slot → Slot × List Char
  | '-' :: rest, slot => flags rest { slot with left := true }
  | '0' :: rest, slot => flags rest { slot with zeros := true }
  | '+' :: rest, slot => flags rest { slot with plus := true }
  | ' ' :: rest, slot => flags rest { slot with space := true }
  | '#' :: rest, slot => flags rest { slot with marked := true }
  | rest, slot => (slot, rest)

/-- A number at the start of a text, zero if there is none. -/
def count (limit : Nat) (cs : List Char) : Except Fault (Nat × List Char) :=
  let ds := cs.takeWhile Char.isDigit
  let n := ds.foldl (fun n d => 10 * n + (d.toNat - '0'.toNat)) 0
  if limit < n then .error (.badValue "a width or precision is too big")
  else .ok (n, cs.drop ds.length)

/-- Take the width of a slot. A negative one from the arguments pads on the other side. -/
def takeWidth (slot : Slot) (cs : List Char) (supply : Supply) :
    Except Fault (Slot × List Char × Supply) :=
  match cs with
  | '*' :: rest => do
    let (n, supply) ← supply.nextWhole widthLimit
    return ({ slot with width := n.natAbs, left := slot.left || n < 0 }, rest, supply)
  | _ => do
    let (width, rest) ← count widthLimit cs
    return ({ slot with width }, rest, supply)

/-- Take the precision of a slot, if it has one. A negative one from the arguments counts as
zero. -/
def takePlaces (slot : Slot) (cs : List Char) (supply : Supply) :
    Except Fault (Slot × List Char × Supply) :=
  match cs with
  | '.' :: '*' :: rest => do
    let (n, supply) ← supply.nextWhole placesLimit
    return ({ slot with places := some n.toNat }, rest, supply)
  | '.' :: rest => do
    let (places, rest) ← count placesLimit rest
    return ({ slot with places := some places }, rest, supply)
  | _ => .ok (slot, cs, supply)

/-- Drop a letter that says how long a number is, which does not matter. -/
def dropLength (cs : List Char) : List Char :=
  match cs with
  | c :: rest => if c = 'l' || c = 'h' || c = 'L' then rest else cs
  | [] => cs

/-- The slot at the start of a text, the text after it and the arguments left for it. -/
def Slot.read (cs : List Char) (supply : Supply) : Except Fault (Slot × List Char × Supply) := do
  let (cs, supply) ← takeName cs supply
  let (slot, cs) := flags cs {}
  let (slot, cs, supply) ← takeWidth slot cs supply
  let (slot, cs, supply) ← takePlaces slot cs supply
  match dropLength cs with
  | [] => throw (.badValue "incomplete format")
  | letter :: rest => return ({ slot with letter }, rest, supply)

/-! ### Digits -/

/-- A number of units of the last of some places, written with a point. -/
def pointed (marked : Bool) (places units : Nat) : List Char :=
  let whole := Decimal.digits (units / Nat.pow 10 places)
  if places = 0 then if marked then whole ++ ['.'] else whole
  else whole ++ '.' :: Decimal.padZeros places (Decimal.digits (units % Nat.pow 10 places))

/-- A magnitude in units of a power of ten, rounded. -/
def unitsOf (x : Rat) (power : Int) : Nat :=
  Decimal.roundDiv (x.num.natAbs * Nat.pow 10 (-power).toNat) (x.den * Nat.pow 10 power.toNat)

/-- A magnitude with fixed places. -/
def fixed (marked : Bool) (places : Nat) (x : Rat) : List Char :=
  pointed marked places (unitsOf x (-places))

/-- The power of ten of the first digit of a magnitude that is not zero. -/
def leadOf (x : Rat) : Int :=
  let n := x.num.natAbs
  let guess : Int := (Decimal.digits n).length - (Decimal.digits x.den).length
  if x.den * Nat.pow 10 guess.toNat ≤ n * Nat.pow 10 (-guess).toNat then guess else guess - 1

/-- A magnitude as a number of `places + 1` digits and the power of ten of the first of them. -/
def scaled (places : Nat) (x : Rat) : Nat × Int :=
  if x.num = 0 then (0, 0)
  else
    let lead := leadOf x
    let units := unitsOf x (lead - places)
    if units = Nat.pow 10 (places + 1) then (units / 10, lead + 1) else (units, lead)

/-- An exponent with its sign and at least two digits. -/
def exponent (e : Int) : List Char :=
  'e' :: (if e < 0 then '-' else '+') :: Decimal.padZeros 2 (Decimal.digits e.natAbs)

/-- Drop the zeros at the end of a fraction, and the point if nothing is left of it. -/
def dropZeros (cs : List Char) : List Char :=
  if cs.contains '.' then
    ((cs.reverse.dropWhile (· = '0')).dropWhile (· = '.')).reverse
  else cs

/-- A magnitude with an exponent. -/
def scientific (marked : Bool) (places : Nat) (x : Rat) : List Char :=
  let (units, e) := scaled places x
  pointed marked places units ++ exponent e

/-- A magnitude with so many digits, positionally if its exponent is small. -/
def general (marked : Bool) (digits : Nat) (x : Rat) : List Char :=
  let shorten (cs : List Char) : List Char := if marked then cs else dropZeros cs
  let digits := max digits 1
  let (units, e) := scaled (digits - 1) x
  if -4 ≤ e ∧ e < digits then shorten (fixed marked ((digits : Int) - 1 - e).toNat x)
  else shorten (pointed marked (digits - 1) units) ++ exponent e

/-! ### Filling -/

/-- Put a sign, a mark, digits and padding together. -/
def Slot.number (slot : Slot) (negative : Bool) (mark digits : List Char) : List Char :=
  let sign := if negative then ['-'] else if slot.plus then ['+']
    else if slot.space then [' '] else []
  let lead := sign ++ mark
  let room := slot.width - (lead.length + digits.length)
  if slot.left then lead ++ digits ++ List.replicate room ' '
  else if slot.zeros then lead ++ List.replicate room '0' ++ digits
  else List.replicate room ' ' ++ lead ++ digits

/-- Pad characters or code points by a blank. -/
def Slot.padded {α : Type} (slot : Slot) (blank : α) (cs : List α) : List α :=
  let room := slot.width - cs.length
  if slot.left then cs ++ List.replicate room blank else List.replicate room blank ++ cs

/-- Cut and pad a text. -/
def Slot.text (slot : Slot) (cs : List Char) : List Char :=
  slot.padded ' ' (match slot.places with
    | some n => cs.take n
    | none => cs)

/-- The whole number for a numeric slot: a floating number may stand in for it if `cut` allows. -/
def wholeOf (cut : Bool) (value : Json) : Except Fault Int :=
  match value with
  | .int n => .ok n
  | .bool b => .ok (if b then 1 else 0)
  | .float _ => if cut then value.toInt else .error (.wrongKind "an integer is required")
  | _ => .error (.wrongKind ("a real number is required, not " ++ value.kind.word))

/-- A whole number in some base. -/
def Slot.whole (slot : Slot) (cut : Bool) (mark : String) (toDigits : Nat → List Char)
    (value : Json) : Except Fault (List Char) := do
  let n ← wholeOf cut value
  let places := slot.places.getD 0
  if placesLimit - 3 < places then throw (.outOfRange "precision too large")
  else
    let digits := Decimal.padZeros places (toDigits n.natAbs)
    return slot.number (n < 0) (if slot.marked then mark.toList else []) digits

/-- A floating number, the magnitude of a finite one written by `write`. -/
def Slot.float (slot : Slot) (write : Bool → Nat → Rat → List Char) (x : Float) : List Char :=
  match Decimal.ofFloat? x with
  | some q =>
    let negative : Bool := x < 0 || (x == 0 && 1 / x < 0)
    slot.number negative [] (write slot.marked (slot.places.getD 6) q)
  | none =>
    let plain := Decimal.Layout.plain
    slot.number (x < 0) [] (if x.isNaN then plain.notANumber else plain.infinite).toList

/-- A number with a fraction. -/
def Slot.real (slot : Slot) (write : Bool → Nat → Rat → List Char) (value : Json) :
    Except Fault (List Char) :=
  match Quantity.ofJson? value with
  | some q => q.check.map fun _ => slot.float write q.toFloat
  | none => .error (.wrongKind ("must be real number, not " ++ value.kind.word))

/-- A number with a fraction, in capital letters. -/
def Slot.realUpper (slot : Slot) (write : Bool → Nat → Rat → List Char) (value : Json) :
    Except Fault (List Char) := do
  return (← slot.real write value).map Char.toUpper

/-- A number that is a code point, perhaps half of a pair. -/
def pointAt (n : Int) : Except Fault Nat :=
  if 0 ≤ n ∧ n < 0x110000 then .ok n.toNat
  else .error (.outOfRange "%c arg not in range(0x110000)")

/-- The code point for a slot: that of a character, or one that is given. -/
def pointOf : Json → Except Fault Nat
  | .str s =>
    match s.toList with
    | [c] => .ok c.toNat
    | _ => .error (.wrongKind "%c requires int or char")
  | .int n => pointAt n
  | .bool b => pointAt (if b then 1 else 0)
  | _ => .error (.wrongKind "%c requires int or char")

/-- A value in a slot that holds characters. -/
def Slot.chars (slot : Slot) (value : Json) : Except Fault (List Char) :=
  match slot.letter with
  | 's' => .ok (slot.text value.shown.toList)
  | 'r' => .ok (slot.text (Json.Style.message.write value).toList)
  | 'a' => .ok (slot.text ((Json.Style.message.write value).toList.flatMap Text.inAscii))
  | 'd' | 'i' | 'u' => slot.whole true "" Decimal.digits value
  | 'x' => slot.whole false "0x" (Nat.toDigits 16) value
  | 'X' => slot.whole false "0X" (fun n => (Nat.toDigits 16 n).map Char.toUpper) value
  | 'o' => slot.whole false "0o" (Nat.toDigits 8) value
  | 'f' => slot.real fixed value
  | 'F' => slot.realUpper fixed value
  | 'e' => slot.real scientific value
  | 'E' => slot.realUpper scientific value
  | 'g' => slot.real general value
  | 'G' => slot.realUpper general value
  | _ => .error (.badValue "unsupported format character")

/-- A value in a slot of any width, as code points. -/
def Slot.lay (slot : Slot) (value : Json) : Except Fault (List Nat) :=
  if slot.letter = 'c' then do return slot.padded ' '.toNat [← pointOf value]
  else (slot.chars value).map fun cs => cs.map Char.toNat

/-- A value in a slot. A value that does not fit is a fault before the width is one. -/
def Slot.fill (slot : Slot) (value : Json) : Except Fault (List Nat) :=
  if heldWidth < slot.width then do
    let _ ← Slot.lay { slot with width := 0 } value
    throw (.tooLong "a width beyond what can be held")
  else slot.lay value

end ChainRelay.Template
