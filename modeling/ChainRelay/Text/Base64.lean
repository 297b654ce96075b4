/-!
# Base64, read strictly

Four characters of the alphabet stand for three bytes; the last group is filled up with `=`. The
first offence from the left is reported, and the number of characters is judged at the end. Bits
that the last character of a filled group holds beyond its byte are ignored.
-/

namespace ChainRelay.Text.Base64

/-- Why a text is refused. -/
inductive Offence where
  | notAscii
  | leadingPadding
  | excessData
  | foreignCharacter
  | interruptedPadding
  /-- One character is left over after this many whole bytes. -/
  | leftOver (bytes : Nat)
  | unfilledGroup
  deriving DecidableEq, Repr

/-- The wording of an offence. -/
def Offence.message : Offence → String
  | notAscii => "string argument should contain only ASCII characters"
  | leadingPadding => "Leading padding not allowed"
  | excessData => "Excess data after padding"
  | foreignCharacter => "Only base64 data is allowed"
  | interruptedPadding => "Discontinuous padding not allowed"
  | leftOver bytes =>
    "Invalid base64-encoded string: number of data characters (" ++ toString (bytes / 3 * 4 + 1) ++
      ") cannot be 1 more than a multiple of 4"
  | unfilledGroup => "Incorrect padding"

/-- The six bits of a character of the alphabet. -/
def value? (c : Char) : Option Nat :=
  if 'A' ≤ c ∧ c ≤ 'Z' then some (c.toNat - 'A'.toNat)
  else if 'a' ≤ c ∧ c ≤ 'z' then some (c.toNat - 'a'.toNat + 26)
  else if '0' ≤ c ∧ c ≤ '9' then some (c.toNat - '0'.toNat + 52)
  else if c = '+' then some 62
  else if c = '/' then some 63
  else none

/-- What has been read of a text. -/
structure Progress where
  /-- The bytes read so far, the last one first. -/
  bytes : List UInt8
  /-- How many characters of the current group have been read. -/
  position : Nat
  /-- The bits that do not make up a byte yet. -/
  carry : Nat
  /-- How many `=` have been read since the last character of the alphabet. -/
  pads : Nat
  /-- Whether any `=` has been read. -/
  padding : Bool

/-- Take in the six bits of one character. -/
def Progress.push (p : Progress) (v : Nat) : Progress :=
  match p.position with
  | 0 => ⟨p.bytes, 1, v, 0, p.padding⟩
  | 1 => ⟨(p.carry * 4 + v / 16).toUInt8 :: p.bytes, 2, v % 16, 0, p.padding⟩
  | 2 => ⟨(p.carry * 16 + v / 4).toUInt8 :: p.bytes, 3, v % 4, 0, p.padding⟩
  | _ => ⟨(p.carry * 64 + v).toUInt8 :: p.bytes, 0, 0, 0, p.padding⟩

/-- The bytes read when the text ends. -/
def Progress.finish (p : Progress) : Except Offence (List UInt8) :=
  match p.position with
  | 0 => .ok p.bytes.reverse
  | 1 => .error (.leftOver p.bytes.length)
  | _ => .error .unfilledGroup

/-- Read the rest of a text. -/
def scan (p : Progress) : List Char → Except Offence (List UInt8)
  | [] => p.finish
  | c :: rest =>
    if c = '=' then
      if 2 ≤ p.position then
        if 4 ≤ p.position + (p.pads + 1) then
          if rest.isEmpty then .ok p.bytes.reverse else .error .excessData
        else scan ⟨p.bytes, p.position, p.carry, p.pads + 1, true⟩ rest
      else scan ⟨p.bytes, p.position, p.carry, p.pads, true⟩ rest
    else
      match value? c with
      | none => .error .foreignCharacter
      | some v =>
        if p.padding then .error .interruptedPadding
        else scan (p.push v) rest

/-- The bytes that a text denotes. -/
def decode (s : String) : Except Offence (List UInt8) :=
  let cs := s.toList
  if cs.any fun c => 0x7F < c.toNat then .error .notAscii
  else if cs.head? = some '=' then .error .leadingPadding
  else scan ⟨[], 0, 0, 0, false⟩ cs

end ChainRelay.Text.Base64
