import ChainRelay.Fault
import ChainRelay.Text.Numeral

/-!
# Arguments of the command line

Options are read from left to right and the last one of a kind counts. A long option may be cut
short as long as only one option begins with what is left, and its value may follow after an equals
sign. What looks like a negative number is a value. After two hyphens nothing is an option any more.

## Implementation notes

All arguments are sorted into words and options first, so that an ambiguous option is an error
wherever it stands. Only then are they taken in order, which is when help is given.
-/

namespace ChainRelay.CommandLine

/-- The options. -/
inductive Switch where
  | help
  | role
  | host
  | portNumber
  | dryRun
  | reload
  deriving DecidableEq, Repr

namespace Switch

/-- The spellings of the options. -/
def spellings : List (String × Switch) :=
  [("-h", help), ("--help", help), ("--role", role), ("--host", host), ("--port", portNumber),
    ("--dry-run-startup", dryRun), ("--reload", reload)]

/-- Whether an option takes a value. -/
def takesValue : Switch → Bool
  | role | host | portNumber => true
  | help | dryRun | reload => false

end Switch

/-- Why a run does not come to an outcome. -/
inductive Refusal where
  /-- Help was asked for. -/
  | help
  /-- The arguments cannot be used. -/
  | misuse
  /-- A fault that nobody handles. -/
  | fault (f : Fault)
  deriving Inhabited

/-- What the arguments say. An option whose value is two hyphens is given, but has no value. -/
structure Arguments where
  role : String
  host : Option String
  /-- The number to listen at, if the option is given. -/
  portNumber : Option (Option Int) := none
  dryRun : Bool := false
  reload : Bool := false
  deriving DecidableEq, Repr

/-- An argument by its looks. -/
inductive Token where
  | word (text : String)
  /-- An option, the text attached to it, and whether it was written with two hyphens. -/
  | switch (s : Switch) (attached : Option String) (long : Bool)
  | unknown
  /-- Two hyphens. -/
  | separator
  deriving DecidableEq, Repr

/-! ### Sorting -/

/-- The text before the first equals sign, and the text after it. -/
def splitValue (cs : List Char) : List Char × Option String :=
  match cs.dropWhile (· ≠ '=') with
  | _ :: value => (cs.takeWhile (· ≠ '='), some (String.ofList value))
  | [] => (cs, none)

/-- Whether a text looks like a negative number. -/
def looksNegative (cs : List Char) : Bool :=
  match cs with
  | '-' :: digits =>
    let digits := if digits.getLast? = some '\n' then digits.dropLast else digits
    let isDigit (c : Char) : Bool := (Text.digitValue? c).isSome
    let fraction := (digits.dropWhile isDigit).drop 1
    (!digits.isEmpty && digits.all isDigit) ||
      ((digits.dropWhile isDigit).head? = some '.' && !fraction.isEmpty && fraction.all isDigit)
  | _ => false

/-- The options that begin with a text. -/
def beginningWith (cs : List Char) : List Switch :=
  (Switch.spellings.filter fun s => cs.isPrefixOf s.1.toList).map Prod.snd

/-- A text that begins with a hyphen and is no option as it stands, nor one with a value. -/
def sortOther (cs : List Char) : Except Refusal Token :=
  match cs with
  | '-' :: '-' :: _ =>
    let (name, value) := splitValue cs
    match beginningWith name with
    | [s] => .ok (.switch s value true)
    | [] => .ok (if cs.contains ' ' then .word (String.ofList cs) else .unknown)
    | _ => .error .misuse
  | '-' :: c :: rest =>
    match Switch.spellings.lookup (String.ofList ['-', c]) with
    | some s => .ok (.switch s (some (String.ofList rest)) false)
    | none =>
      .ok (if looksNegative cs || cs.contains ' ' then .word (String.ofList cs) else .unknown)
  | _ => .ok (.word (String.ofList cs))

/-- Sort one argument. -/
def sortOne (text : String) : Except Refusal Token :=
  match text.toList with
  | '-' :: c :: rest =>
    let cs := '-' :: c :: rest
    let (name, value) := splitValue cs
    match Switch.spellings.lookup text, Switch.spellings.lookup (String.ofList name) with
    | some s, _ => .ok (.switch s none (c = '-'))
    | none, some s => .ok (.switch s value (c = '-'))
    | none, none => sortOther cs
  | _ => .ok (.word text)

/-- Sort all arguments. -/
def sortAll : List String → Except Refusal (List Token)
  | [] => .ok []
  | text :: rest =>
    if text = "--" then .ok (.separator :: rest.map .word)
    else do
      let token ← sortOne text
      let tokens ← sortAll rest
      return token :: tokens

/-! ### Taking -/

/-- What has been taken so far. -/
structure Taken where
  role : Option String := none
  host : Option (Option String) := none
  portNumber : Option (Option Int) := none
  dryRun : Bool := false
  reload : Bool := false
  /-- Whether there was an argument that nobody wanted. -/
  surplus : Bool := false

/-- What the name of a role looks like if it has no value. -/
def noRole : String := "[]"

/-- Take an option with its value. -/
def Taken.withValue (t : Taken) (s : Switch) (value : String) : Except Refusal Taken :=
  let value? := if value = "--" then none else some value
  match s with
  | .role => .ok { t with role := some (value?.getD noRole) }
  | .host => .ok { t with host := some value? }
  | .portNumber =>
    match value? with
    | none => .ok { t with portNumber := some none }
    | some text =>
      match Text.toInt? text with
      | some n => .ok { t with portNumber := some (some n) }
      | none => .error .misuse
  | .help | .dryRun | .reload => .error .misuse

/-- Whether help is asked for by a short option with this text attached: short options may be
written as one. -/
def asksForHelp (attached : String) : Bool :=
  attached != "" && attached.toList.all (· = 'h')

/-- Take an option without a value. -/
def Taken.plain (t : Taken) (s : Switch) (attached : Option String) (long : Bool) :
    Except Refusal Taken :=
  match s, attached with
  | .dryRun, none => .ok { t with dryRun := true }
  | .reload, none => .ok { t with reload := true }
  | .help, none => .error .help
  | .help, some more => if !long && asksForHelp more then .error .help else .error .misuse
  | _, _ => .error .misuse

/-- Take tokens in order. -/
def take (t : Taken) : List Token → Except Refusal Taken
  | [] => .ok t
  | .switch s attached long :: rest =>
    if s.takesValue then
      match attached, rest with
      | some value, rest => do take (← t.withValue s value) rest
      | none, .word value :: rest => do take (← t.withValue s value) rest
      | none, _ => .error .misuse
    else do take (← t.plain s attached long) rest
  | _ :: rest => take { t with surplus := true } rest

/-- Read the arguments. A role has to be given; the host has a default. -/
def Arguments.parse (defaultHost : String) (texts : List String) : Except Refusal Arguments := do
  let taken ← take {} (← sortAll texts)
  match taken.role, taken.surplus with
  | some role, false => return {
      role, host := taken.host.getD (some defaultHost), portNumber := taken.portNumber
      dryRun := taken.dryRun, reload := taken.reload }
  | _, _ => throw .misuse

end ChainRelay.CommandLine
