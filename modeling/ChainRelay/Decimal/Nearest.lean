/-!
# Nearest doubles of rational numbers

Where a time passes through double precision the rounding shows, so it is done here on exact
rational numbers: the nearest double of a rational number, as the rational number that it is
(`nearest`, whose range is not limited from above) or as a double (`toFloat`).

## Implementation notes

Powers are written `Nat.pow`, here and in the other modules on decimals, so that they mean the same
with and without an algebra library at hand.
-/

namespace ChainRelay.Decimal

/-- A quotient of natural numbers rounded to the nearest natural number, a half to the even one. -/
def roundDiv (num den : Nat) : Nat :=
  let q := num / den
  let r := num % den
  if 2 * r < den then q
  else if den < 2 * r then q + 1
  else if q % 2 = 0 then q
  else q + 1

/-- A rational number rounded to the nearest integer, a half to the even one. -/
def roundEven (x : Rat) : Int :=
  let n : Int := roundDiv x.num.natAbs x.den
  if x.num < 0 then -n else n

/-- A rational number without its fraction. -/
def truncate (x : Rat) : Int := Int.tdiv x.num x.den

/-- The exponent of the last of 53 binary digits of `num / den`, at least -1074. -/
def lastPlace (num den : Nat) : Int :=
  let e : Int := Int.ofNat num.log2 - Int.ofNat den.log2 - 52
  let short : Bool := num * Nat.pow 2 (-e).toNat < den * Nat.pow 2 e.toNat * Nat.pow 2 52
  max (if short then e - 1 else e) (-1074)

/-- The double nearest to a rational number, of two equally near ones the even one. -/
def nearest (x : Rat) : Rat :=
  if x.num = 0 then 0
  else
    let num := x.num.natAbs
    let e := lastPlace num x.den
    let m := roundDiv (num * Nat.pow 2 (-e).toNat) (x.den * Nat.pow 2 e.toNat)
    let y := mkRat (m * Nat.pow 2 e.toNat) (Nat.pow 2 (-e).toNat)
    if x.num < 0 then -y else y

/-- The rational number that a finite double is. -/
def ofFloat? (x : Float) : Option Rat :=
  let bits := x.toBits.toNat
  let biased : Nat := bits / Nat.pow 2 52 % Nat.pow 2 11
  let fraction : Nat := bits % Nat.pow 2 52
  if biased = 0x7FF then none
  else
    let m : Nat := if biased = 0 then fraction else fraction + Nat.pow 2 52
    let e : Int := if biased = 0 then -1074 else Int.ofNat biased - 1075
    let y := mkRat (m * Nat.pow 2 e.toNat) (Nat.pow 2 (-e).toNat)
    some (if Nat.pow 2 63 ≤ bits then -y else y)

/-- Whether a rational number is beyond the range of doubles after rounding. -/
def isTooLarge (x : Rat) : Bool := Nat.pow 2 1024 ≤ (nearest x).num.natAbs / (nearest x).den

/-- The bits of the double nearest to a positive quotient; those of infinity if it is too large. -/
def bitsOf (num den : Nat) : Nat :=
  let e := lastPlace num den
  let m := roundDiv (num * Nat.pow 2 (-e).toNat) (den * Nat.pow 2 e.toNat)
  min (0x7FF * Nat.pow 2 52) (m + (e + 1074).toNat * Nat.pow 2 52)

/-- The double nearest to a rational number, infinite if the number is too large. -/
def toFloat (x : Rat) : Float :=
  let bits := if x.num = 0 then 0 else bitsOf x.num.natAbs x.den
  Float.ofBits (UInt64.ofNat (if x.num < 0 then bits + Nat.pow 2 63 else bits))

end ChainRelay.Decimal
