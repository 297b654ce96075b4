import ChainRelay.Decimal.Shortest

/-!
# How floating numbers are written

A number is written with its shortest digits: positionally while its leading digit stands for a
power of ten from `10 ^ -4` up to `10 ^ 15`, with a sign and at least two digits of exponent
otherwise. A whole number keeps a final `.0` when it is written positionally.
-/

namespace ChainRelay.Decimal

/-- The choices of one way to write floating numbers. -/
structure Layout where
  /-- Least and greatest power of ten of the leading digit that is written positionally. -/
  positional : Int × Int
  /-- Least number of digits of an exponent. -/
  exponentDigits : Nat
  notANumber : String
  infinite : String

/-- The layout used in every text of the relayer. -/
def Layout.plain : Layout := ⟨(-4, 15), 2, "nan", "inf"⟩

/-- The layout used inside JSON text, which differs in the names of the special values only. -/
def Layout.json : Layout := ⟨(-4, 15), 2, "NaN", "Infinity"⟩

/-- Decimal digits of a natural number. -/
def digits (n : Nat) : List Char := Nat.toDigits 10 n

/-- Pad with zeros on the left. -/
def padZeros (width : Nat) (cs : List Char) : List Char :=
  List.replicate (width - cs.length) '0' ++ cs

/-- Write `c * 10 ^ p`. -/
def Layout.magnitude (layout : Layout) (c : Nat) (p : Int) : List Char :=
  let ds := digits c
  let lead : Int := p + ds.length - 1
  if layout.positional.1 ≤ lead ∧ lead ≤ layout.positional.2 then
    if 0 ≤ p then ds ++ List.replicate p.toNat '0' ++ ['.', '0']
    else if 0 ≤ lead then ds.take (lead.toNat + 1) ++ '.' :: ds.drop (lead.toNat + 1)
    else '0' :: '.' :: List.replicate ((-lead).toNat - 1) '0' ++ ds
  else
    let head := match ds with
      | [] => []
      | [d] => [d]
      | d :: rest => d :: '.' :: rest
    head ++ 'e' :: (if lead < 0 then '-' else '+') ::
      padZeros layout.exponentDigits (digits lead.natAbs)

/-- Write a floating number. -/
def Layout.write (layout : Layout) (x : Float) : String :=
  let bits := x.toBits.toNat
  let sign := if Nat.pow 2 63 ≤ bits then "-" else ""
  let magnitudeBits := bits % Nat.pow 2 63
  if magnitudeBits = 0 then sign ++ "0.0"
  else if magnitudeBits = 0x7FF * Nat.pow 2 52 then sign ++ layout.infinite
  else if 0x7FF * Nat.pow 2 52 < magnitudeBits then layout.notANumber
  else
    let (c, p) := (Binary.ofBits magnitudeBits).shortest
    sign ++ String.ofList (layout.magnitude c p)

end ChainRelay.Decimal
