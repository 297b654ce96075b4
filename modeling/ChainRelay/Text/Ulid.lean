/-!
# Sortable identifiers

Identifiers of 26 characters that denote a number of 128 bits in base 32, most significant digit
first. The alphabet leaves out the letters that are easily mistaken for digits.
-/

namespace ChainRelay.Text.Ulid

/-- The digits, in order. -/
def alphabet : List Char := "0123456789ABCDEFGHJKMNPQRSTVWXYZ".toList

/-- The last `count` digits of a number. -/
def digits : Nat → Nat → List Char
  | 0, _ => []
  | count + 1, n => digits count (n / 32) ++ [alphabet.getD (n % 32) '0']

/-- The identifier of a number. -/
def ofNat (n : Nat) : String := String.ofList (digits 26 n)

/-- Whether a text has the shape of an identifier. -/
def isUlid (s : String) : Bool :=
  s.length == 26 && s.toList.all alphabet.contains

/-- The token of a lock. -/
def lockToken (n : Nat) : String := "lck_" ++ ofNat n

/-- The identifier of a run of the relayer. -/
def runId (n : Nat) : String := "run_" ++ ofNat n

end ChainRelay.Text.Ulid
