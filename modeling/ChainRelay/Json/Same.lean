import ChainRelay.Json.Basic
import ChainRelay.Time.Quantity

/-!
# Equality of values

Two values are the same if they have the same shape and the same leaves. Numbers and truth values
are compared by the number that they stand for, and the order of members does not count.
-/

namespace ChainRelay.Json

/-- Whether a floating number is exactly a whole one. -/
def isWhole (x : Float) (n : Int) : Bool :=
  match Decimal.ofFloat? x with
  | some q => q == n
  | none => false

/-- Whether two numbers are equal. -/
def sameNumber : Quantity → Quantity → Bool
  | .whole m, .whole n => m == n
  | .real x, .whole n | .whole n, .real x => isWhole x n
  | .real x, .real y => x == y

mutual

/-- Whether two values are the same. -/
def same : Json → Json → Bool
  | .arr xs, .arr ys => sameItems xs ys
  | .obj xs, .obj ys => xs.length == ys.length && sameMembers xs ys
  | .str s, .str t => s == t
  | .torn s, .torn t => s == t
  | .null, .null => true
  | x, y =>
    match Quantity.ofJson? x, Quantity.ofJson? y with
    | some m, some n => sameNumber m n
    | _, _ => false

/-- Whether two lists have the same items in the same order. -/
def sameItems : List Json → List Json → Bool
  | [], [] => true
  | x :: xs, y :: ys => same x y && sameItems xs ys
  | _, _ => false

/-- Whether each of some members is found among others. -/
def sameMembers : List (String × Json) → Fields → Bool
  | [], _ => true
  | (name, x) :: rest, ys =>
    (match Fields.get? ys name with
      | some y => same x y
      | none => false) && sameMembers rest ys

end

end ChainRelay.Json
