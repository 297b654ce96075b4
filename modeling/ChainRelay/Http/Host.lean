import ChainRelay.Fault
import ChainRelay.Http.Label
import ChainRelay.Text.Hex
import ChainRelay.Text.LowerCase
import ChainRelay.Text.Percent

/-!
# Hosts

A host is a number of four octets, a number of eight groups of hexadecimal digits between square
brackets, or a name. What looks like a number has to be one. A name in ASCII is taken as it is. Any
other name consists of labels, which are used in their plain form.
-/

namespace ChainRelay.Http.Host

/-- The parts of a text between marks. -/
def splitAt (mark : Char → Bool) : List Char → List (List Char)
  | [] => [[]]
  | c :: rest =>
    match splitAt mark rest with
    | part :: parts => if mark c then [] :: part :: parts else (c :: part) :: parts
    | [] => [[c]]

/-! ### Numbers -/

/-- Whether a text is a number below 256 without a zero in front. -/
def isOctet (cs : List Char) : Bool :=
  !cs.isEmpty && cs.length ≤ 3 && cs.all Char.isDigit && (cs = ['0'] || cs.head? ≠ some '0') &&
    cs.foldl (fun n d => 10 * n + (d.toNat - '0'.toNat)) 0 ≤ 255

/-- Whether a text is a number of four octets. -/
def isOctets (cs : List Char) : Bool :=
  let parts := splitAt (· = '.') cs
  parts.length == 4 && parts.all isOctet

/-- Whether a text is a group of hexadecimal digits. -/
def isGroup (cs : List Char) : Bool :=
  !cs.isEmpty && cs.length ≤ 4 && cs.all fun c => (Text.Hex.value? c).isSome

/-- The last two groups may be written as four octets. -/
def expandOctets (parts : List (List Char)) : Option (List (List Char)) :=
  match parts.getLast? with
  | some last =>
    if !last.contains '.' then some parts
    else if isOctets last then some (parts.dropLast ++ [['0'], ['0']]) else none
  | none => some parts

/-- The groups on one side of the groups left out: none at all if that side is empty. -/
def side (parts : List (List Char)) : List (List Char) := if parts = [[]] then [] else parts

/-- Whether parts between colons are eight groups, or fewer with one empty part inside that stands
for those left out. -/
def areGroups (parts : List (List Char)) : Bool :=
  match ((parts.drop 1).dropLast).findIdx? List.isEmpty with
  | none => parts.length == 8 && parts.all isGroup
  | some i =>
    let before := side (parts.take (i + 1))
    let after := side (parts.drop (i + 2))
    before.all isGroup && after.all isGroup && before.length + after.length ≤ 7

/-- Whether a text is a number of eight groups, perhaps with the name of a zone. -/
def isGroups (cs : List Char) : Bool :=
  let number := cs.takeWhile (· ≠ '%')
  let zone := cs.drop number.length
  let parts := splitAt (· = ':') number
  !cs.contains '/' && (zone.isEmpty || (2 ≤ zone.length && !(zone.drop 1).contains '%')) &&
    3 ≤ parts.length && ((expandOctets parts).any areGroups)

/-- Whether a text consists of four runs of digits with dots between them. -/
def looksLikeOctets (cs : List Char) : Bool :=
  let parts := splitAt (· = '.') cs
  parts.length == 4 && parts.all fun part => !part.isEmpty && part.all Char.isDigit

/-! ### Names -/

/-- Whether a character stands between labels. -/
def isDot (c : Char) : Bool :=
  c = '.' || c.toNat = 0x3002 || c.toNat = 0xFF0E || c.toNat = 0xFF61

/-- The most characters in a name, a last dot left out. -/
def sizeLimit : Nat := 253

/-- The name that a text in lower case is, with its labels in plain form. Behind the last label may
stand a dot. -/
def name? (cs : List Char) : Option String := do
  let labels := splitAt isDot cs
  let isOpen := labels.getLast? = some []
  let plain ← (if isOpen then labels.dropLast else labels).mapM Label.plain?
  let name := ['.'].intercalate plain
  if sizeLimit < name.length then none
  else return String.ofList (if isOpen then name ++ ['.'] else name)

/-- Whether a character is kept in a plain name. -/
def isKept (c : Char) : Bool :=
  c.isAlphanum || "-._~!$&'()*+,;=\"`\x7b\x7d%|\\".toList.contains c

/-- A host as it is used, unless it is none. -/
def read (cs : List Char) : Except Fault String :=
  if looksLikeOctets cs then
    if isOctets cs then .ok (String.ofList cs) else .error (.badAddress "no number of four octets")
  else if cs.head? = some '[' && cs.getLast? = some ']' then
    let number := (cs.drop 1).dropLast
    if isGroups number then .ok (String.ofList number)
    else .error (.badAddress "no number of eight groups")
  else if cs.all fun c => c.toNat < 0x80 then
    .ok (String.ofList (Text.Percent.encode isKept (cs.map Char.toLower)))
  else match name? (cs.flatMap Text.lowered) with
    | some name => .ok name
    | none => .error (.badAddress "no name of a host")

end ChainRelay.Http.Host
