/-!
# Bytes of text

Characters are stored in one to four bytes. Bytes that do not stand for a character are read as the
replacement character, one for the bytes up to the first that does not fit. Main statement:
`decode_encode_of_plain`, plain characters are read back.
-/

namespace ChainRelay.Text.Utf8

/-- The bytes of some characters. -/
def encode (cs : List Char) : List UInt8 := cs.flatMap String.utf8EncodeChar

/-- The character that stands for bytes without a meaning. -/
def replacement : Char := Char.ofNat 0xFFFD

/-- The character of a code point. Half of a surrogate pair has none and is replaced. -/
def charOf (point : Nat) : Char := if point.isValidChar then Char.ofNat point else replacement

@[simp] theorem charOf_toNat (c : Char) : charOf c.toNat = c := by
  have valid : c.toNat.isValidChar := c.valid
  have back : Char.ofNat c.toNat = c := Char.ofNat_toNat c
  simp [charOf, valid, back]

/-- A character of which some bytes are still missing. -/
structure Started where
  /-- What is known of its code point. -/
  code : Nat
  /-- How many bytes are missing. -/
  missing : Nat
  /-- The bounds of the next byte. -/
  bounds : Nat × Nat := (0x80, 0xBF)
  deriving DecidableEq, Repr

/-- What a byte at the start of a character comes to. -/
inductive Start where
  | whole (c : Char)
  | more (started : Started)
  | bad

/-- Read the first byte of a character. Bounds on the second byte keep out what could be written
shorter, halves of pairs, and what is beyond the last code point. -/
def start (b : Nat) : Start :=
  if b < 0x80 then .whole (Char.ofNat b)
  else if b < 0xC2 then .bad
  else if b < 0xE0 then .more { code := b - 0xC0, missing := 1 }
  else if b < 0xF0 then
    .more { code := b - 0xE0, missing := 2
            bounds := (if b = 0xE0 then 0xA0 else 0x80, if b = 0xED then 0x9F else 0xBF) }
  else if b < 0xF5 then
    .more { code := b - 0xF0, missing := 3
            bounds := (if b = 0xF0 then 0x90 else 0x80, if b = 0xF4 then 0x8F else 0xBF) }
  else .bad

/-- Read bytes, perhaps after the start of a character. -/
def decodeFrom : Option Started → List UInt8 → List Char
  | none, [] => []
  | some _, [] => [replacement]
  | some s, b :: rest =>
    if s.bounds.1 ≤ b.toNat ∧ b.toNat ≤ s.bounds.2 then
      let code := 64 * s.code + b.toNat % 64
      if s.missing = 1 then Char.ofNat code :: decodeFrom none rest
      else decodeFrom (some { code, missing := s.missing - 1 }) rest
    else
      replacement :: match start b.toNat with
        | .whole c => c :: decodeFrom none rest
        | .more s => decodeFrom (some s) rest
        | .bad => replacement :: decodeFrom none rest
  | none, b :: rest =>
    match start b.toNat with
    | .whole c => c :: decodeFrom none rest
    | .more s => decodeFrom (some s) rest
    | .bad => replacement :: decodeFrom none rest

/-- The characters that bytes stand for. -/
def decode (bytes : List UInt8) : List Char := decodeFrom none bytes

theorem encode_cons_of_plain {c : Char} (cs : List Char) (h : c.toNat < 0x80) :
    encode (c :: cs) = UInt8.ofNat c.toNat :: encode cs := by
  have small : c.val.toNat ≤ 0x7F := Nat.le_of_lt_succ h
  have bytes : String.utf8EncodeChar c = [UInt8.ofNat c.toNat] := by
    unfold String.utf8EncodeChar
    rw [if_pos small]
    rfl
  simp [encode, bytes]

/-- Plain characters are read back. -/
theorem decode_encode_of_plain (cs : List Char) (h : ∀ c ∈ cs, c.toNat < 0x80) :
    decode (encode cs) = cs := by
  unfold decode
  induction cs with
  | nil => rfl
  | cons c cs ih =>
    have plain := h c (by simp)
    have byte : (UInt8.ofNat c.toNat).toNat = c.toNat := by
      simp only [UInt8.toNat_ofNat']; omega
    have rest := ih fun d hd => h d (by simp [hd])
    rw [encode_cons_of_plain cs plain]
    simp [decodeFrom, byte, start, plain, rest]

end ChainRelay.Text.Utf8
