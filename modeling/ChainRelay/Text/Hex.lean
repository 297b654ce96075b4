import ChainRelay.Text.Digit
import ChainRelay.Text.Quoted

/-!
# Bytes in hexadecimal

Bytes are written as two lower-case digits each. When read, both cases are accepted and plain
blanks may stand between bytes, but not inside one. Main statement: `decode_encode`, reading gives
back what was written.
-/

namespace ChainRelay.Text.Hex

/-- The value of a hexadecimal digit. -/
def value? (c : Char) : Option UInt8 :=
  if '0' ≤ c ∧ c ≤ '9' then some (c.toNat - '0'.toNat).toUInt8
  else if 'a' ≤ c ∧ c ≤ 'f' then some (c.toNat - 'a'.toNat + 10).toUInt8
  else if 'A' ≤ c ∧ c ≤ 'F' then some (c.toNat - 'A'.toNat + 10).toUInt8
  else none

/-- The digit of a value below sixteen. -/
def digit (n : UInt8) : Char :=
  if n < 10 then Char.ofNat ('0'.toNat + n.toNat) else Char.ofNat ('a'.toNat + n.toNat - 10)

/-- Two digits for each byte. -/
def encodeChars : List UInt8 → List Char
  | [] => []
  | b :: rest => digit (b / 16) :: digit (b % 16) :: encodeChars rest

/-- The text of some bytes. -/
def encode (bytes : List UInt8) : String := String.ofList (encodeChars bytes)

/-- Read pairs of digits with blanks between them. -/
def decodeChars : List Char → Option (List UInt8)
  | [] => some []
  | c :: rest =>
    if isPlainBlank c then decodeChars rest
    else
      match rest with
      | [] => none
      | d :: rest => do
        let high ← value? c
        let low ← value? d
        let bytes ← decodeChars rest
        some ((16 * high + low) :: bytes)

/-- The bytes that a text denotes. -/
def decode (s : String) : Option (List UInt8) := decodeChars s.toList

private theorem value_digit (b : UInt8) : value? (digit (b / 16)) = some (b / 16) ∧
    value? (digit (b % 16)) = some (b % 16) ∧ isPlainBlank (digit (b / 16)) = false ∧
    16 * (b / 16) + b % 16 = b := by
  have all : ∀ n : Fin 256, value? (digit (UInt8.ofFin n / 16)) = some (UInt8.ofFin n / 16) ∧
      value? (digit (UInt8.ofFin n % 16)) = some (UInt8.ofFin n % 16) ∧
      isPlainBlank (digit (UInt8.ofFin n / 16)) = false ∧
      16 * (UInt8.ofFin n / 16) + UInt8.ofFin n % 16 = UInt8.ofFin n := by decide +kernel
  exact all b.toFin

/-- Reading gives back what was written. -/
theorem decodeChars_encodeChars (bytes : List UInt8) :
    decodeChars (encodeChars bytes) = some bytes := by
  induction bytes with
  | nil => rfl
  | cons b rest ih =>
    obtain ⟨high, low, plain, whole⟩ := value_digit b
    simp [encodeChars, decodeChars, plain, high, low, ih, whole]

@[simp] theorem decode_encode (bytes : List UInt8) : decode (encode bytes) = some bytes := by
  simp [decode, encode, decodeChars_encodeChars]

end ChainRelay.Text.Hex
