import ChainRelay.Http.Host
import ChainRelay.Text.Numeral

/-!
# Addresses of pages

An address names a scheme, a host and a path there, perhaps with a query. A path may be given by a
reference, which is put behind the path of a base. Steps up and steps that stay are carried out
before anything is encoded, so an encoded dot is no step.

## Main definitions

* `Url` — an address, its path and query in encoded form
* `Url.parse`, `Url.base` — read an address; one that is to be a base ends with a slash
* `Url.join` — the address of a reference
* `Url.page`, `Url.fields` — the path and the query of an address, decoded
-/

namespace ChainRelay.Http

/-- An address. -/
structure Url where
  scheme : String := ""
  user : String := ""
  host : String := ""
  portNumber : Option Int := none
  path : String := ""
  query : Option String := none
  deriving DecidableEq, Repr, Inhabited

namespace Url

/-- The greatest length of an address and of its parts. -/
def sizeLimit : Nat := 65536

/-- Check the characters and the length of a text. -/
def checkText (cs : List Char) : Except Fault Unit :=
  if sizeLimit < cs.length then .error (.badAddress "too long")
  else if cs.any fun c => c.toNat < 0x20 || c.toNat = 0x7F then
    .error (.badAddress "control characters")
  else .ok ()

/-! ### Kept characters -/

/-- Whether a character is printed, but no blank. -/
def isGraphic (c : Char) : Bool := 0x20 < c.toNat && c.toNat < 0x7F

/-- Whether a character is kept in a query. -/
def keptInQuery (c : Char) : Bool := isGraphic c && !("\"#<>".toList.contains c)

/-- Whether a character is kept in a path. -/
def keptInPath (c : Char) : Bool := keptInQuery c && !("?`\x7b\x7d".toList.contains c)

/-- Whether a character is kept in what identifies a user. -/
def keptInUser (c : Char) : Bool := keptInPath c && !("/:;=@[]\\^|".toList.contains c)

/-! ### Parts -/

/-- The parts of an address as they are written. -/
structure Parts where
  scheme : List Char := []
  authority : List Char := []
  path : List Char := []
  query : Option (List Char) := none

/-- Whether a character may stand in a scheme after its first letter. -/
def isSchemeChar (c : Char) : Bool := c.isAlphanum || c = '+' || c = '.' || c = '-'

/-- The scheme in front of a colon, and what follows it. -/
def splitScheme (cs : List Char) : List Char × List Char :=
  let name := cs.takeWhile isSchemeChar
  match cs.drop name.length with
  | ':' :: rest => if name.isEmpty || name.head?.any Char.isAlpha then (name, rest) else ([], cs)
  | _ => ([], cs)

/-- The parts of a text. What follows a number sign does not matter. -/
def Parts.ofChars (cs : List Char) : Parts :=
  let (scheme, cs) := splitScheme cs
  let (authority, cs) := match cs with
    | '/' :: '/' :: rest =>
      let authority := rest.takeWhile fun c => c ≠ '/' && c ≠ '?' && c ≠ '#'
      (authority, rest.drop authority.length)
    | _ => ([], cs)
  let path := cs.takeWhile fun c => c ≠ '?' && c ≠ '#'
  let query := match cs.drop path.length with
    | '?' :: rest => some (rest.takeWhile (· ≠ '#'))
    | _ => none
  { scheme, authority, path, query }

/-- The user in front of the last at sign, and what follows it. -/
def splitUser (cs : List Char) : List Char × List Char :=
  if cs.contains '@' then
    let host := (cs.reverse.takeWhile (· ≠ '@')).reverse
    (cs.take (cs.length - host.length - 1), host)
  else ([], cs)

/-- The host and the number after it. A host in brackets may hold colons. -/
def splitHost (cs : List Char) : List Char × List Char :=
  let host := if cs.head? = some '[' && cs.contains ']' then
      (cs.reverse.dropWhile (· ≠ ']')).reverse
    else cs.takeWhile (· ≠ ':')
  match cs.drop host.length with
  | ':' :: rest => (host, rest)
  | rest => (host, rest)

/-- The number at which a server listens, if one is given. -/
def readNumber (cs : List Char) : Except Fault (Option Int) :=
  if cs.isEmpty then .ok none
  else match Text.toInt? (String.ofList cs) with
    | some n => .ok (some n)
    | none => .error (.badAddress "no number after the host")

/-! ### Paths -/

/-- Carry out steps: a step that stays is left out, a step up takes back the part before it. `done`
holds the parts so far, the last one first. -/
def walk (done : List String) : List String → List String
  | [] => done.reverse
  | "." :: rest => walk done rest
  | ".." :: rest => walk (if done = [""] then done else done.drop 1) rest
  | part :: rest => walk (part :: done) rest

/-- No step is left where there was none among the parts so far. -/
theorem not_step_of_mem_walk {done parts : List String} {p : String}
    (h : ∀ q ∈ done, q ≠ "." ∧ q ≠ "..") (hp : p ∈ walk done parts) : p ≠ "." ∧ p ≠ ".." := by
  fun_induction walk done parts with
  | case1 done => exact h p (by simpa using hp)
  | case2 done rest ih => exact ih h hp
  | case3 done rest ih =>
    refine ih (fun q hq => ?_) hp
    split at hq
    · exact h q hq
    · exact h q (List.mem_of_mem_drop hq)
  | case4 done part rest dot up ih =>
    refine ih (fun q hq => ?_) hp
    rcases List.mem_cons.1 hq with rfl | hq
    · exact ⟨dot, up⟩
    · exact h q hq

/-- A path without steps. -/
def withoutSteps (path : String) : String := "/".intercalate (walk [] (path.splitOn "/"))

/-- Whether an address stands for itself, with a scheme and a host. -/
def isAbsolute (u : Url) : Bool := u.scheme != "" && u.host != ""

/-- Whether an address says nothing but a path and a query. -/
def isBare (u : Url) : Bool :=
  u.scheme = "" && u.user = "" && u.host = "" && u.portNumber.isNone

/-- An address with another path and another query. The path of a bare address cannot begin like
something else. -/
def withParts (u : Url) (path : String) (query : Option String) : Except Fault Url := do
  checkText path.toList
  checkText (query.getD "").toList
  if u.isBare && (path.startsWith "//" || path.startsWith ":") then
    throw (.badAddress "a path that begins like a host or a scheme")
  else
    let path := if u.isBare then path else withoutSteps path
    return { u with
      path := String.ofList (Text.Percent.encode keptInPath path.toList)
      query := query.map fun q => String.ofList (Text.Percent.encode keptInQuery q.toList) }

/-- The address that a text denotes. -/
def parse (text : String) : Except Fault Url := do
  checkText text.toList
  let parts := Parts.ofChars text.toList
  let (user, authority) := splitUser parts.authority
  let (host, number) := splitHost authority
  let host ← Host.read host
  let portNumber ← readNumber number
  let u : Url := {
    scheme := String.ofList (parts.scheme.map Char.toLower)
    user := String.ofList (Text.Percent.encode keptInUser user), host, portNumber }
  u.withParts (String.ofList parts.path) (parts.query.map String.ofList)

/-- The path and the query together. -/
def target (u : Url) : String :=
  (if u.path = "" then "/" else u.path) ++ ((u.query.map ("?" ++ ·)).getD "")

/-- An address with another path and query, given together. -/
def withTarget (u : Url) (target : String) : Except Fault Url :=
  let cs := target.toList
  let path := cs.takeWhile (· ≠ '?')
  let query := match cs.drop path.length with
    | _ :: rest => some (String.ofList rest)
    | [] => none
  u.withParts (String.ofList path) query

/-- The address that a text denotes, as a base of references. -/
def base (text : String) : Except Fault Url := do
  let u ← parse text
  if u.target.endsWith "/" then return u else u.withTarget (u.target ++ "/")

/-- The address that a reference stands for: that which it says in full, or else what is put behind
the base. -/
def join (base : Url) (reference : String) : Except Fault Url := do
  let u ← parse reference
  if u.isAbsolute then return u
  else
    let rest := u.target.toList.dropWhile (· = '/')
    base.withTarget (base.target ++ String.ofList rest)

/-- An address with a query of its own, if there are fields for one. -/
def withFields (u : Url) (fields : List (String × String)) : Except Fault Url :=
  if fields.isEmpty then .ok u
  else do
    let query := Text.Percent.encodeForm fields
    checkText query.toList
    return { u with query := some query }

/-! ### What an address says -/

/-- The path, decoded. -/
def page (u : Url) : String := Text.Percent.decode (if u.path = "" then "/" else u.path)

/-- The fields of the query, decoded. Of several fields with one name the first counts. -/
def fields (u : Url) : List (String × String) :=
  Text.Percent.firstFields (Text.Percent.decodeForm (u.query.getD ""))

end Url

end ChainRelay.Http
