import ChainRelay.Text.Utf8

/-!
# Encodings told by zeros

A text that begins with a plain character tells by the zeros among its first bytes in units of how
many bytes it is written, and which byte of a unit comes first.
-/

namespace ChainRelay.Text

/-- How characters are written as bytes. -/
inductive Encoding where
  | bytes
  /-- Units of two bytes. -/
  | pairs (bigEnd : Bool)
  /-- Units of four bytes. -/
  | quads (bigEnd : Bool)
  deriving DecidableEq, Repr

namespace Encoding

/-- The encoding of a text that begins with a plain character. -/
def detect : List UInt8 → Encoding
  | a :: b :: c :: d :: _ =>
    if a = 0 then if b = 0 then quads true else pairs true
    else if b = 0 then if c = 0 ∧ d = 0 then quads false else pairs false
    else bytes
  | [a, b] => if a = 0 then pairs true else if b = 0 then pairs false else bytes
  | _ => bytes

/-- Units of two bytes; none if a byte is left over. -/
def pairUnits (bigEnd : Bool) : List UInt8 → Option (List Nat)
  | [] => some []
  | a :: b :: rest =>
    (pairUnits bigEnd rest).map fun units =>
      (if bigEnd then 256 * a.toNat + b.toNat else 256 * b.toNat + a.toNat) :: units
  | _ => none

/-- Units of four bytes; none if bytes are left over. -/
def quadUnits (bigEnd : Bool) (content : List UInt8) : Option (List Nat) := do
  join (← pairUnits bigEnd content)
where
  join : List Nat → Option (List Nat)
    | [] => some []
    | a :: b :: rest =>
      (join rest).map fun units => (if bigEnd then 65536 * a + b else 65536 * b + a) :: units
    | _ => none

/-- Join the halves of pairs. -/
def joinPairs : List Nat → List Char
  | a :: b :: rest =>
    if 0xD800 ≤ a ∧ a < 0xDC00 ∧ 0xDC00 ≤ b ∧ b < 0xE000 then
      Utf8.charOf (0x10000 + 1024 * (a - 0xD800) + (b - 0xDC00)) :: joinPairs rest
    else Utf8.charOf a :: joinPairs (b :: rest)
  | [a] => [Utf8.charOf a]
  | [] => []

/-- The characters that bytes stand for in an encoding, if they do. -/
def decode? (encoding : Encoding) (content : List UInt8) : Option (List Char) :=
  match encoding with
  | bytes => some (Utf8.decode content)
  | pairs bigEnd => (pairUnits bigEnd content).map joinPairs
  | quads bigEnd => do
    let units ← quadUnits bigEnd content
    if units.all (· < 0x110000) then some (units.map Utf8.charOf) else none

end Encoding

end ChainRelay.Text
