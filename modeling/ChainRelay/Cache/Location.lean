import ChainRelay.Http.Host
import ChainRelay.Text.Numeral

/-!
# Where a shared cache is

The address of a shared cache: its scheme, the authority after two slashes, and options in a query.
`RemoteCache.Location.check` says whether a cache can be set up from a text. What the authority and
the options say is only looked at, for nothing is connected before the cache is used.
-/

namespace ChainRelay.RemoteCache

/-- The address of a shared cache. -/
structure Location where
  scheme : String := ""
  authority : List Char := []
  /-- The options, by name. -/
  options : List (String × String) := []

namespace Location

/-- The schemes of shared caches. -/
def schemes : List String := ["redis", "rediss", "unix"]

/-- The characters beyond ASCII that stand for a mark which ends an authority or divides it. -/
def maskedMarks : List Nat := [
  0x2047, 0x2048, 0x2049, 0x2100, 0x2101, 0x2105, 0x2106, 0x2A74, 0xFE13, 0xFE16, 0xFE55, 0xFE56,
  0xFE5F, 0xFE6B, 0xFF03, 0xFF0F, 0xFF1A, 0xFF1F, 0xFF20]

/-! ### Reading -/

/-- A text without the line ends and tabulators in it and the blanks in front. -/
def cleaned (text : String) : List Char :=
  (text.toList.dropWhile fun c => c.toNat ≤ 0x20).filter fun c => c ≠ '\t' && c ≠ '\r' && c ≠ '\n'

/-- Whether characters are a scheme. -/
def isScheme (cs : List Char) : Bool :=
  cs.head?.any Char.isAlpha && cs.all fun c => c.isAlphanum || c = '+' || c = '.' || c = '-'

/-- The scheme in front of the first colon, and what follows it. -/
def splitScheme (cs : List Char) : String × List Char :=
  let name := cs.takeWhile (· ≠ ':')
  if isScheme name && cs.contains ':' then
    (String.ofList (name.map Char.toLower), cs.drop (name.length + 1))
  else ("", cs)

/-- Check the number between brackets in an authority. -/
def checkBracketed (number : List Char) : Except Fault Unit :=
  let shown := Text.quoted (String.ofList number)
  match number with
  | 'v' :: rest =>
    let version := rest.takeWhile fun c => (Text.Hex.value? c).isSome
    let after := rest.drop version.length
    if !version.isEmpty && after.head? = some '.' && 2 ≤ after.length then .ok ()
    else .error (.badValue "IPvFuture address is invalid")
  | _ =>
    if Http.Host.isOctets number then
      .error (.badValue "An IPv4 address cannot be in brackets")
    else if Http.Host.isGroups number then .ok ()
    else .error (.badValue (shown ++ " does not appear to be an IPv4 or IPv6 address"))

/-- Check an authority in which brackets occur. They belong around the host: nothing stands in front
of them, and nothing but a number after a colon behind them. What stands for the host is checked as
if it were in brackets, even where it is not. -/
def checkBrackets (cs : List Char) : Except Fault Unit := do
  let host := (cs.reverse.takeWhile (· ≠ '@')).reverse
  if host.contains '[' then
    let number := ((host.dropWhile (· ≠ '[')).drop 1).takeWhile (· ≠ ']')
    let after := ((host.dropWhile (· ≠ '[')).dropWhile (· ≠ ']')).drop 1
    if host.head? ≠ some '[' || (!after.isEmpty && after.head? ≠ some ':') then
      throw (.badValue "Invalid IPv6 URL")
    checkBracketed number
  else checkBracketed (host.takeWhile (· ≠ ':'))

/-- Check an authority. -/
def checkAuthority (cs : List Char) : Except Fault Unit := do
  if cs.contains '[' != cs.contains ']' then throw (.badValue "Invalid IPv6 URL")
  if cs.contains '[' then checkBrackets cs
  if cs.any fun c => maskedMarks.contains c.toNat then
    throw (.badValue ("netloc \x27" ++ String.ofList cs ++
      "\x27 contains invalid characters under NFKC normalization"))

/-- The address that a text denotes. -/
def parse (text : String) : Except Fault Location := do
  let (scheme, cs) := splitScheme (cleaned text)
  let (authority, cs) := match cs with
    | '/' :: '/' :: rest =>
      let authority := rest.takeWhile fun c => c ≠ '/' && c ≠ '?' && c ≠ '#'
      (authority, rest.drop authority.length)
    | _ => ([], cs)
  checkAuthority authority
  let query := ((cs.takeWhile (· ≠ '#')).dropWhile (· ≠ '?')).drop 1
  let given := (Text.Percent.decodeForm (String.ofList query)).filter fun o => o.2 ≠ ""
  return { scheme, authority, options := Text.Percent.firstFields given }

/-! ### Options -/

/-- What the value of an option has to be. -/
inductive Demand where
  | whole
  | real
  /-- Names of checks on certificates, with commas between them. -/
  | checks

/-- The options whose value is looked at. -/
def demands : List (String × Demand) := [
  ("db", .whole), ("max_connections", .whole), ("health_check_interval", .whole),
  ("protocol", .whole), ("socket_read_size", .whole), ("ssl_min_version", .whole),
  ("socket_timeout", .real), ("socket_connect_timeout", .real), ("timeout", .real),
  ("ssl_include_verify_flags", .checks), ("ssl_exclude_verify_flags", .checks)]

/-- The checks on certificates. -/
def certificateChecks : List String := [
  "VERIFY_DEFAULT", "VERIFY_CRL_CHECK_LEAF", "VERIFY_CRL_CHECK_CHAIN", "VERIFY_X509_STRICT",
  "VERIFY_X509_TRUSTED_FIRST", "VERIFY_ALLOW_PROXY_CERTS", "VERIFY_X509_PARTIAL_CHAIN"]

/-- Whether a value is what is demanded. A list of names may stand in brackets. -/
def Demand.isMetBy (demand : Demand) (value : String) : Bool :=
  match demand with
  | whole => (Text.toInt? value).isSome
  | real => Text.isReal value
  | checks =>
    let cs := value.toList.filter fun c => c ≠ '[' && c ≠ ']'
    ((String.ofList cs).splitOn ",").all fun name => certificateChecks.contains (Text.strip name)

/-- Check the value of an option. -/
def checkOption (option : String × String) : Except Fault Unit :=
  if (demands.lookup option.1).all fun demand => demand.isMetBy option.2 then .ok ()
  else .error (.badValue ("Invalid value for \x27" ++ option.1 ++ "\x27 in connection URL."))

/-- The number after the host: what follows the colon after it or after its bracket. -/
def portText (l : Location) : List Char :=
  let host := (l.authority.reverse.takeWhile (· ≠ '@')).reverse
  let host := if host.contains '[' then (host.dropWhile (· ≠ '[')).dropWhile (· ≠ ']') else host
  (host.dropWhile (· ≠ ':')).drop 1

/-- Check the number after the host. -/
def checkPort (l : Location) : Except Fault Unit :=
  let cs := l.portText
  let text := String.ofList cs
  if cs.isEmpty then .ok ()
  else if !cs.all Char.isDigit then
    .error (.badValue ("Port could not be cast to integer value as " ++ Text.quoted text))
  else match Text.toInt? text with
    | some n => if n ≤ 65535 then .ok () else .error (.badValue "Port out of range 0-65535")
    | none => .error (.badValue (Text.tooLongText cs.length))

/-- Check the most connections that may be open. -/
def checkConnections (l : Location) : Except Fault Unit :=
  match (l.options.lookup "max_connections").bind Text.toInt? with
  | some n =>
    if n < 0 then .error (.badValue "\"max_connections\" must be a positive integer") else .ok ()
  | none => .ok ()

/-- Whether a cache can be set up at an address. -/
def check (text : String) : Except Fault Unit := do
  let l ← parse text
  l.options.forM checkOption
  if !schemes.contains l.scheme then
    let names := ", ".intercalate (schemes.map (· ++ "://"))
    throw (.badValue ("Redis URL must specify one of the following schemes (" ++ names ++ ")"))
  if l.scheme ≠ "unix" then l.checkPort
  l.checkConnections

end Location

end ChainRelay.RemoteCache
