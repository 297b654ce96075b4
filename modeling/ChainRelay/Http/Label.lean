import ChainRelay.Text.Composition
import ChainRelay.Text.Direction
import ChainRelay.Text.Joining
import ChainRelay.Text.Punycode

/-!
# Labels

A label is one part of the name of a host. It consists of characters of names, in lower case and
composed. A few other characters may stand in it where the characters around them give them a
meaning. A label beyond ASCII is used in its plain form, which begins with `xn--`; a label that
begins so has to be the plain form of a sound one.

## Main definitions

* `Label.isSound` — whether a text is a label
* `Label.plain?` — the form of a label that is used, if it is one
-/

namespace ChainRelay.Http.Label

/-- Whether a character is in one of some ranges. -/
def isAmong (ranges : List (Nat × Nat)) (c : Char) : Bool :=
  ranges.any fun range => range.1 ≤ c.toNat && c.toNat ≤ range.2

/-- The ranges of Greek letters, as far as they are characters of names. -/
def greek : List (Nat × Nat) :=
  [(0x371, 0x3e1), (0x3f3, 0x3fc), (0x1d26, 0x1d2a), (0x1f00, 0x1ff6), (0xab65, 0xab65)]

/-- The ranges of Hebrew letters and marks. -/
def hebrew : List (Nat × Nat) := [(0x591, 0x5f4), (0xfb1e, 0xfb1e)]

/-- The ranges of the letters of Japanese. -/
def japanese : List (Nat × Nat) := [
  (0x3041, 0x3096), (0x309d, 0x309e), (0x1b001, 0x1b11f), (0x1b150, 0x1b152), (0x30a1, 0x30fa),
  (0x30fd, 0x30fe), (0x31f0, 0x31ff), (0x1aff0, 0x1b000), (0x1b120, 0x1b122), (0x1b164, 0x1b167),
  (0x3005, 0x3005), (0x3007, 0x3007), (0x3400, 0x9fff), (0xfa0e, 0xfa29), (0x16fe3, 0x16fe3),
  (0x16ff0, 0x16ff1), (0x20000, 0x3134a)]

/-- The two kinds of Arabic digits. -/
def arabicDigits : (Nat × Nat) × (Nat × Nat) := ((0x660, 0x669), (0x6f0, 0x6f9))

/-- Whether a character may stand between what is before and what is after it in a label. -/
def fits (before after : List Char) (c : Char) : Bool :=
  let around := before ++ after
  let last := before.getLast?
  Text.isNameChar c || match c.toNat with
    | 0x200c => -- keeps letters from joining
      last.any (Text.combiningClass · = Text.viramaClass) ||
        (Text.joinsAtEnd before && Text.joinsAtFront after)
    | 0x200d => -- makes letters join
      last.any (Text.combiningClass · = Text.viramaClass)
    | 0xb7 => last = some 'l' && after.head? = some 'l'
    | 0x375 => after.head?.any (isAmong greek)
    | 0x5f3 | 0x5f4 => last.any (isAmong hebrew)
    | 0x30fb => around.any (isAmong japanese)
    | _ =>
      (isAmong [arabicDigits.1] c && !around.any (isAmong [arabicDigits.2])) ||
        (isAmong [arabicDigits.2] c && !around.any (isAmong [arabicDigits.1]))

/-- Whether all characters of a text fit where they stand, `before` being what has been seen. -/
def allFit (before : List Char) : List Char → Bool
  | [] => true
  | c :: rest => fits before rest c && allFit (before ++ [c]) rest

/-- Whether hyphens stand where they may: not at the ends, nor as third and fourth character. -/
def hyphensFit (cs : List Char) : Bool :=
  cs.head? ≠ some '-' && cs.getLast? ≠ some '-' && (cs.drop 2).take 2 ≠ ['-', '-']

/-- Whether a text in lower case is a label. -/
def isSound (cs : List Char) : Bool :=
  !cs.isEmpty && hyphensFit cs && !cs.head?.any Text.isMark && allFit [] cs && Text.isComposed cs &&
    Text.isSoundName (cs.map Text.direction)

/-- What the plain form of a label beyond ASCII begins with. -/
def mark : List Char := "xn--".toList

/-- The most characters in a label. -/
def sizeLimit : Nat := 63

/-- Whether the text behind the mark stands for a label. -/
def isPlainForm (cs : List Char) : Bool :=
  cs.getLast? ≠ some '-' && (Text.Punycode.decode cs).any isSound

/-- The form of a label that is used. -/
def plain? (cs : List Char) : Option (List Char) :=
  let isPlain := cs.all fun c => c.toNat < Text.Punycode.firstPoint
  let plain := if isPlain then cs else mark ++ Text.Punycode.encode cs
  let sound :=
    if isPlain && mark.isPrefixOf cs then isPlainForm (cs.drop mark.length) else isSound cs
  if sound && plain.length ≤ sizeLimit then some plain else none

end ChainRelay.Http.Label
