import ChainRelay.Time.Quantity

/-!
# Readings of a monotonic clock

Lock lifetimes, drain deadlines and polls are measured on a monotonic clock. Programs run on
doubles; statements about them are made for any type of seconds, in particular for the exact
rational numbers.
-/

namespace ChainRelay

/-- Seconds of a monotonic clock. -/
class Seconds (τ : Type) extends Add τ, Sub τ, Mul τ, Div τ, LE τ, LT τ where
  /-- A configured quantity as a number of seconds. -/
  ofQuantity : Quantity → τ
  /-- A configured quantity of milliseconds as a number of seconds. -/
  ofMillis : Quantity → τ
  /-- Whether a number of seconds is less than a quantity. -/
  isUnder : τ → Quantity → Bool
  /-- Whether a number of seconds is greater than a quantity. -/
  isOver : τ → Quantity → Bool
  /-- The grain of a clock that waits: what is due within less than this counts as due. -/
  grain : τ
  decLe : DecidableLE τ
  decLt : DecidableLT τ

namespace Seconds

variable {τ : Type} [Seconds τ]

instance : DecidableLE τ := Seconds.decLe

instance : DecidableLT τ := Seconds.decLt

/-- Whether what is to happen at one time is due at another. -/
def isDue (time now : τ) : Bool := decide (time < now + grain)

/-- A whole number of seconds. -/
def whole (n : Int) : τ := ofQuantity (.whole n)

instance : Seconds Float where
  ofQuantity := Quantity.toFloat
  ofMillis := Quantity.thousandth
  isUnder x q := q.isAbove x
  isOver x q := q.isBelow x
  grain := 1e-9
  decLe := inferInstance
  decLt := inferInstance

instance : Seconds Rat where
  ofQuantity := Quantity.toRat
  ofMillis q := q.toRat / 1000
  isUnder x q := x < q.toRat
  isOver x q := q.toRat < x
  grain := 1 / 1000000000
  decLe := inferInstance
  decLt := inferInstance

end Seconds

end ChainRelay
