/-!
# Names in plain letters

A text in any script, written in the letters, digits and hyphens of ASCII. The plain characters come
first. After the last hyphen follow numbers that say which other characters go where: the characters
are put in by ascending code points, and each number counts the places that are passed over since
the last one. A number is written with its lowest digit first, in base 36; how many values of a digit
end the number depends on the numbers before.

## Main definitions

* `Punycode.encode` — the plain text of a text
* `Punycode.decode` — the text of a plain text, if it is one of any
-/

namespace ChainRelay.Text.Punycode

/-- The base of the digits. -/
def base : Nat := 36

/-- Digits below this end a number, at a place given as a multiple of the base. -/
def threshold (place bias : Nat) : Nat := min 26 (max 1 (place - bias))

theorem threshold_pos (place bias : Nat) : 1 ≤ threshold place bias := by
  unfold threshold
  omega

/-- The bias after a number has been made small enough, in steps of `divisions`. -/
def settledBias (delta divisions : Nat) : Nat :=
  if 455 < delta then settledBias (delta / 35) (divisions + base)
  else divisions + 36 * delta / (delta + 38)
termination_by delta
decreasing_by omega

/-- The bias after a number, for a text of so many characters. -/
def nextBias (delta size : Nat) (isFirst : Bool) : Nat :=
  let delta := if isFirst then delta / 700 else delta / 2
  settledBias (delta + delta / size) 0

/-- The bias before the first number. -/
def firstBias : Nat := 72

/-- The first code point that is not plain. -/
def firstPoint : Nat := 0x80

/-! ### Writing -/

/-- The character of a digit. -/
def digitChar (d : Nat) : Char := Char.ofNat (if d < 26 then 'a'.toNat + d else '0'.toNat + d - 26)

/-- The digits of a number. -/
def writeNumber (bias place n : Nat) : List Char :=
  let t := threshold place bias
  if n < t then [digitChar n]
  else digitChar (t + (n - t) % (base - t)) :: writeNumber bias (place + base) ((n - t) / (base - t))
termination_by n
decreasing_by
  have one := threshold_pos place bias
  have := Nat.div_le_self (n - threshold place bias) (base - threshold place bias)
  omega

/-- What has been written, and what has been passed over since the last number. -/
structure Writing where
  text : List Char := []
  delta : Nat := 0
  bias : Nat := firstBias
  /-- How many characters have been put in. -/
  size : Nat
  isFirst : Bool := true

/-- Pass over one character of a text, or put it in if it is the one of this code point. -/
def Writing.pass (point : Nat) (w : Writing) (c : Char) : Writing :=
  if c.toNat < point then { w with delta := w.delta + 1 }
  else if c.toNat = point then {
    text := w.text ++ writeNumber w.bias base w.delta
    delta := 0
    bias := nextBias w.delta (w.size + 1) w.isFirst
    size := w.size + 1
    isFirst := false }
  else w

/-- Put in all characters of some code points, which ascend from `point`. -/
def Writing.run (cs : List Char) : Nat → List Nat → Writing → Writing
  | _, [], w => w
  | point, next :: rest, w =>
    let w := { w with delta := w.delta + (next - point) * (w.size + 1) }
    let w := cs.foldl (Writing.pass next) w
    run cs (next + 1) rest { w with delta := w.delta + 1 }

/-- The plain text of a text. -/
def encode (cs : List Char) : List Char :=
  let plain := cs.filter fun c => c.toNat < firstPoint
  let points := ((cs.map Char.toNat).filter (firstPoint ≤ ·)).mergeSort.eraseDups
  let written := Writing.run cs firstPoint points { size := plain.length }
  plain ++ (if plain.isEmpty then [] else ['-']) ++ written.text

/-! ### Reading -/

/-- The value of a digit. -/
def digitValue? (c : Char) : Option Nat :=
  if c.isDigit then some (c.toNat - '0'.toNat + 26)
  else if c.isLower then some (c.toNat - 'a'.toNat)
  else if c.isUpper then some (c.toNat - 'A'.toNat)
  else none

/-- A number and what follows it. -/
def readNumber (bias : Nat) : (place weight : Nat) → List Char → Option (Nat × List Char)
  | _, _, [] => none
  | place, weight, c :: rest =>
    match digitValue? c with
    | none => none
    | some d =>
      let t := threshold place bias
      if d < t then some (d * weight, rest)
      else match readNumber bias (place + base) (weight * (base - t)) rest with
        | none => none
        | some (n, rest) => some (d * weight + n, rest)

/-- What follows a number is shorter than what it stands at the front of. -/
theorem length_lt_of_readNumber {bias place weight n : Nat} {cs rest : List Char}
    (h : readNumber bias place weight cs = some (n, rest)) : rest.length < cs.length := by
  fun_induction readNumber bias place weight cs generalizing n rest with
  | case1 => simp at h
  | case2 => simp at h
  | case3 => simp_all
  | case4 => simp at h
  | case5 place weight c cs d hd t ht m found hfound =>
    rename_i ih
    have := ih hfound
    simp only [Option.some.injEq, Prod.mk.injEq] at h
    simp only [List.length_cons, ← h.2]
    omega

/-- Put characters into a text, where and which the numbers say. -/
def putIn (text : List Char) (point place bias : Nat) (isFirst : Bool) (cs : List Char) :
    Option (List Char) :=
  if cs.isEmpty then some text
  else
    match h : readNumber bias base 1 cs with
    | none => none
    | some (delta, rest) =>
      let size := text.length + 1
      let point := point + (place + delta) / size
      let place := (place + delta) % size
      if point.isValidChar then
        putIn (text.take place ++ Char.ofNat point :: text.drop place) point (place + 1)
          (nextBias delta size isFirst) false rest
      else none
termination_by cs.length
decreasing_by exact length_lt_of_readNumber h

/-- The text of a plain text. -/
def decode (cs : List Char) : Option (List Char) :=
  let numbers := (cs.reverse.takeWhile (· ≠ '-')).reverse
  let plain := (cs.take (cs.length - numbers.length)).dropLast
  putIn plain firstPoint 0 firstBias true numbers

end ChainRelay.Text.Punycode
