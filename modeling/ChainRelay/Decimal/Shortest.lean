/-!
# Shortest decimals of binary numbers

A finite double is `m * 2 ^ q`. The reals that round to it form an interval around it, whose ends
belong to it exactly when `m` is even. Among the decimals in that interval the one with the
fewest digits is taken, and of two with equally many the nearer one.

## Main definitions

* `Binary` — a positive binary number with the distance to its lower neighbour
* `Binary.shortest` — its shortest decimal, as a coefficient and a power of ten

All comparisons are between natural numbers.
-/

namespace ChainRelay.Decimal

/-- A positive number `mantissa * 2 ^ exponent`. `narrow` says that the next number below is half
as far away as the next one above, which is so at a power of two. -/
structure Binary where
  mantissa : Nat
  exponent : Int
  narrow : Bool

namespace Binary

/-- The magnitude of a finite nonzero double, from its bits. -/
def ofBits (bits : Nat) : Binary :=
  let fraction : Nat := bits % Nat.pow 2 52
  let biased : Nat := bits / Nat.pow 2 52 % Nat.pow 2 11
  if biased = 0 then ⟨fraction, -1074, false⟩
  else ⟨fraction + Nat.pow 2 52, Int.ofNat biased - 1075, fraction = 0 ∧ 1 < biased⟩

/-- Quarters of the unit in the last place, and the bounds of the rounding interval in them. -/
def quarters (b : Binary) : Nat × Nat × Nat :=
  (4 * b.mantissa, 4 * b.mantissa - (if b.narrow then 1 else 2), 4 * b.mantissa + 2)

/-- Scale factors `(s, t)` such that a quarter unit times `s` and a decimal step `10 ^ p` times
`t` are whole and in proportion. -/
def scales (b : Binary) (p : Int) : Nat × Nat :=
  let q := b.exponent - 2
  ((if 0 ≤ q then Nat.pow 2 q.toNat else 1) * (if p < 0 then Nat.pow 10 (-p).toNat else 1),
   (if q < 0 then Nat.pow 2 (-q).toNat else 1) * (if 0 ≤ p then Nat.pow 10 p.toNat else 1))

/-- The coefficient `c` for which `c * 10 ^ p` rounds to the number, if there is one: the nearer
of the two neighbours on that grid, the even one at equal distance. -/
def onGrid (b : Binary) (p : Int) : Option Nat :=
  let (mid, low, high) := b.quarters
  let (s, t) := b.scales p
  let even := b.mantissa % 2 = 0
  let hits (c : Nat) : Bool :=
    (if even then low * s ≤ c * t else low * s < c * t) &&
      (if even then c * t ≤ high * s else c * t < high * s)
  let c := mid * s / t
  match hits c, hits (c + 1) with
  | false, false => none
  | true, false => some c
  | false, true => some (c + 1)
  | true, true =>
    let below := mid * s - c * t
    let above := (c + 1) * t - mid * s
    if below < above then some c
    else if above < below then some (c + 1)
    else if c % 2 = 0 then some c else some (c + 1)

/-- The power of ten of the leading digit. -/
def magnitude (b : Binary) : Int :=
  let num := if 0 ≤ b.exponent then b.mantissa * Nat.pow 2 b.exponent.toNat else b.mantissa
  let den := if b.exponent < 0 then Nat.pow 2 (-b.exponent).toNat else 1
  if den ≤ num then ((Nat.toDigits 10 (num / den)).length : Int) - 1
  else
    match (List.range 400).find? fun j => den ≤ num * Nat.pow 10 j with
    | some j => -(j : Int)
    | none => -400

/-- Drop trailing zeros of a coefficient, raising the power of ten. -/
def trim : Nat → Nat → Int → Nat × Int
  | 0, c, p => (c, p)
  | fuel + 1, c, p => if c ≠ 0 ∧ c % 10 = 0 then trim fuel (c / 10) (p + 1) else (c, p)

/-- The shortest decimal that rounds to the number: coefficient and power of ten. Seventeen
digits always suffice. -/
def shortest (b : Binary) : Nat × Int :=
  let k := b.magnitude
  let found := (List.range 17).findSome? fun (n : Nat) =>
    let p := k - n
    (b.onGrid p).map fun c => (c, p)
  match found with
  | some (c, p) => trim 20 c p
  | none => (b.mantissa, 0)

end Binary

end ChainRelay.Decimal
