import ChainRelay.Decimal.Layout
import ChainRelay.Decimal.Nearest
import ChainRelay.Json.Basic

/-!
# Configured quantities

Delays, timeouts and lifetimes are configured as whole or floating numbers of seconds or
milliseconds. The two kinds are kept apart because quantities are shown in messages, where `60`
and `60.0` differ.
-/

namespace ChainRelay

/-- A whole or a floating number. -/
inductive Quantity where
  | whole (n : Int)
  | real (x : Float)
  deriving Inhabited, BEq

namespace Quantity

instance {n : Nat} : OfNat Quantity n := ⟨.whole n⟩

/-- The text of a quantity. -/
def text : Quantity → String
  | whole n => toString n
  | real x => Decimal.Layout.plain.write x

/-- The JSON number of a quantity. -/
def toJson : Quantity → Json
  | whole n => .int n
  | real x => .float x

/-- The quantity that a JSON number denotes; true and false count as one and zero. -/
def ofJson? : Json → Option Quantity
  | .int n => some (whole n)
  | .float x => some (real x)
  | .bool b => some (whole (if b then 1 else 0))
  | _ => none

/-- The nearest double, infinite for a whole number that is too large. -/
def toFloat : Quantity → Float
  | whole n => Decimal.toFloat n
  | real x => x

/-- Whether a whole number is beyond the range of doubles. -/
def isTooLarge : Quantity → Bool
  | whole n => Decimal.isTooLarge n
  | real _ => false

/-- Whether a double is less than a quantity. A whole number is not rounded for this. -/
def isAbove (q : Quantity) (x : Float) : Bool :=
  match q with
  | real y => x < y
  | whole n =>
    match Decimal.ofFloat? x with
    | some exact => exact < n
    | none => x < 0

/-- Whether a double is greater than a quantity. A whole number is not rounded for this. -/
def isBelow (q : Quantity) (x : Float) : Bool :=
  match q with
  | real y => y < x
  | whole n =>
    match Decimal.ofFloat? x with
    | some exact => n < exact
    | none => 0 < x

/-- The nearest double to a thousandth. -/
def thousandth : Quantity → Float
  | whole n => Decimal.toFloat (mkRat n 1000)
  | real x => x / 1000

/-- The exact value. What is not a finite number counts as zero. -/
def toRat : Quantity → Rat
  | whole n => n
  | real x => (Decimal.ofFloat? x).getD 0

/-- The quantity without its fraction. -/
def truncated (q : Quantity) : Int := Decimal.truncate q.toRat

/-- The nearest whole number, a half to the even neighbour. -/
def rounded (q : Quantity) : Int := Decimal.roundEven q.toRat

/-- Seconds as microseconds. A floating number is split first: its whole seconds count exactly,
its fraction is scaled in double precision and then rounded, a half to the even neighbour. -/
def micros : Quantity → Int
  | whole n => n * 1000000
  | real x =>
    let seconds := (real x).toRat
    let whole := Decimal.truncate seconds
    let fraction := seconds - whole
    whole * 1000000 + Decimal.roundEven (Decimal.nearest (fraction * 1000000))

@[simp] theorem micros_whole (n : Int) : micros (whole n) = n * 1000000 := rfl

end Quantity

end ChainRelay
