import ChainRelay.Decimal.Nearest

/-!
# Instants of the wall clock

An instant is a whole number of microseconds since the start of 1970. Broadcasts store theirs as
whole milliseconds. Both conversions go through a floating number of seconds, so an instant that
is not a whole millisecond is cut off after rounding.
-/

namespace ChainRelay

/-- Microseconds since the start of 1970. -/
abbrev Instant := Int

namespace Instant

/-- The floating number of seconds of an instant. -/
def seconds (t : Instant) : Rat := Decimal.nearest (mkRat t 1000000)

/-- The milliseconds stored for an instant. -/
def toMillis (t : Instant) : Int := Decimal.truncate (Decimal.nearest (t.seconds * 1000))

/-- The instant that stored milliseconds denote. -/
def ofMillis (ms : Int) : Instant :=
  let seconds := Decimal.nearest (mkRat ms 1000)
  let whole := Decimal.truncate seconds
  whole * 1000000 + Decimal.roundEven (Decimal.nearest ((seconds - whole) * 1000000))

/-- The first instant of year 1 and of year 10000. -/
def calendar : Instant × Instant := (-62135596800000000, 253402300800000000)

end Instant

end ChainRelay
