import ChainRelay.Log.Slot

/-!
# Message templates

A log message may be a template with arguments: `%s` and `%r` stand for the text of a value, `%d`
for a whole number, `%x` and `%o` for it in other bases, `%f`, `%e` and `%g` for a number with a
fraction, and `%%` for the percent sign itself. Between the sign and the letter may stand flags, a
width and a precision. A single object as argument is addressed by names, `%(name)s`; an argument
too many is a fault, unless there are names. A message is given by its code points, for `%c` may put
half of a surrogate pair into it, which is no character.
-/

namespace ChainRelay.Template

/-- Fill the slots of a template, each with the next argument or with a named one. `fuel` bounds
the number of characters still to be read. -/
def fillSlots : Nat → List Char → Supply → Except Fault (List Nat × Supply)
  | 0, _, supply => .ok ([], supply)
  | _ + 1, [], supply => .ok ([], supply)
  | fuel + 1, '%' :: '%' :: rest, supply => do
    let (out, supply) ← fillSlots fuel rest supply
    .ok ('%'.toNat :: out, supply)
  | fuel + 1, '%' :: rest, supply => do
    let (slot, rest, supply) ← Slot.read rest supply
    let (value, supply) ← supply.next
    let text ← slot.fill value
    let (out, supply) ← fillSlots fuel rest supply
    .ok (text ++ out, supply)
  | fuel + 1, c :: rest, supply => do
    let (out, supply) ← fillSlots fuel rest supply
    .ok (c.toNat :: out, supply)

/-- The code points of the message of a template. Without arguments it is the template as it
stands. -/
def fill (template : String) (arguments : List Json) : Except Fault (List Nat) := do
  let cs := template.toList
  if arguments.isEmpty then return cs.map Char.toNat
  let (out, supply) ← fillSlots (cs.length + 1) cs (Supply.ofList arguments)
  if supply.isUsed then return out
  else throw (.wrongKind "not all arguments converted during string formatting")

end ChainRelay.Template
