import ChainRelay.Text.Mark

/-!
# Directions of characters

Letters are written from the left or from the right; digits, separators and marks adapt to what is
beside them. A text that mixes both directions can be read in two ways, so a name may mix them in
few ways only.

## Implementation notes

The table is for version 14 of the character database and right for the characters of names, and
those that may stand beside them, only. Marks that take no space have a direction of their own.
-/

namespace ChainRelay.Text

/-- The direction of a character. -/
inductive Direction where
  | left
  | right
  /-- From the right, as Arabic letters. -/
  | arabic
  | digit
  | arabicDigit
  | separator
  /-- A mark, which goes with what is before it. -/
  | mark
  | boundary
  | neutral
  deriving DecidableEq, Repr

/-- Where characters of another direction begin, marks left out. -/
def directionRuns : Array (Nat × Direction) := #[
  (0x2d, .separator), (0x30, .digit), (0x61, .left), (0xb7, .neutral), (0xdf, .left),
  (0x2b9, .neutral), (0x2bb, .left), (0x2c6, .neutral), (0x2d0, .left), (0x2ec, .neutral),
  (0x2ee, .left), (0x375, .neutral), (0x377, .left), (0x5d0, .right), (0x620, .arabic),
  (0x660, .arabicDigit), (0x66e, .arabic), (0x6f0, .digit), (0x6fa, .arabic), (0x7c0, .right),
  (0x860, .arabic), (0x903, .left), (0x200c, .boundary), (0x214e, .left), (0x2e2f, .neutral),
  (0x3005, .left), (0x30fb, .neutral), (0x30fc, .left), (0xa67f, .neutral), (0xa681, .left),
  (0xa717, .neutral), (0xa723, .left), (0xa788, .neutral), (0xa78c, .left), (0xfe73, .arabic),
  (0x10000, .left), (0x10800, .right), (0x10d00, .arabic), (0x10d30, .arabicDigit),
  (0x10e80, .right), (0x10f30, .arabic), (0x10f70, .right), (0x11000, .left), (0x1e800, .right),
  (0x20000, .left)]

/-- The marks that take no space but are written from the left. -/
def leftMarks : List Nat := [0xcbf, 0xcc6, 0x11a07, 0x11a08, 0x11c3f]

/-- The direction of a character of a name. -/
def direction (c : Char) : Direction :=
  if !isNonSpacing c then valueAt directionRuns .neutral c.toNat
  else if leftMarks.contains c.toNat then .left
  else .mark

namespace Direction

/-- Whether the direction makes a text one from the right. -/
def turns : Direction → Bool
  | right | arabic | arabicDigit => true
  | _ => false

/-- Whether the direction may occur in a text from the right. -/
def fitsRight (d : Direction) : Bool := d != left

/-- Whether the direction may occur in a text from the left. -/
def fitsLeft (d : Direction) : Bool := !d.turns

end Direction

/-- The direction of the last character that is no mark. -/
def lastDirection? (ds : List Direction) : Option Direction :=
  (ds.reverse.dropWhile (· = .mark)).head?

/-- Whether a text from the right is sound: it ends with a letter or a digit, and its digits are all
of one kind. -/
def isSoundFromRight (ds : List Direction) : Bool :=
  ds.all Direction.fitsRight &&
    (lastDirection? ds).any (fun d => d.turns || d = .digit) &&
    !(ds.contains .digit && ds.contains .arabicDigit)

/-- Whether a text from the left is sound: it ends with a letter or a digit. -/
def isSoundFromLeft (ds : List Direction) : Bool :=
  ds.all Direction.fitsLeft && (lastDirection? ds).any fun d => d = .left || d = .digit

/-- Whether directions may go together in a name. What begins with a letter from the left is one
from the left. -/
def isSoundName (ds : List Direction) : Bool :=
  if !ds.any Direction.turns then true
  else match ds.head? with
    | some .left => isSoundFromLeft ds
    | some .right | some .arabic => isSoundFromRight ds
    | _ => false

end ChainRelay.Text
